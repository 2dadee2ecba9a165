import Observance.Storage.Preferences
import Observance.Theme.Selection
import Observance.Web.Request

/-! # Visits

During a visit the page shows the theme of the day, and a badge that names its event and can be
dismissed. A visitor may turn festival themes off. That hides the theme and the badge, but the
winner is still computed, so turning them on again needs nothing new. Only the last dismissed
event is remembered, so dismissing one badge never hides that of another event.
-/

namespace Observance

/-- What the page is told to do. -/
inductive PageCall (Data : Type) where
  | applyTheme (themeId : Data) (level : Level)
  | showBadge (event : Event Data)
  | hideBadge
deriving Repr, DecidableEq

variable {Data Days : Type} [EventData Data] [Publishable Days]

/-- A visit: the visitor's preferences, and the winner of the day. -/
structure Visit (Data : Type) where
  preferences : Preferences
  selection : Selection Data
deriving Repr

namespace Visit

/-- The preference that festival themes are shown. -/
def enabledName : Text := "festivalEnabled"

/-- The preference that holds the last dismissed event. -/
def dismissedName : Text := "festivalBadgeDismissed"

def begin (preferences : Preferences) : Visit Data := { preferences, selection := .nothing }

/-- The value of a preference; one that is not set is null. -/
def preference (visit : Visit Data) (name : Text) : Json :=
  (visit.preferences.get? name).getD .null

/-- The preference that turns festival themes on or off. -/
def enabledValue (isEnabled : Bool) : Json := .text (if isEnabled then "true" else "false")

/-- Whether festival themes are shown; they are unless turned off. -/
def isEnabled (visit : Visit Data) : Bool :=
  !(visit.preference enabledName).equal (enabledValue false)

def dismissed (visit : Visit Data) : Json := visit.preference dismissedName

/-- What is shown. -/
def applied (visit : Visit Data) : Selection Data :=
  if visit.isEnabled then visit.selection else .nothing

def badge? (visit : Visit Data) : Option (Event Data) :=
  let applied := visit.applied
  if Theme.isNone applied.themeId then none
  else applied.event.filter fun event => !visit.dismissed.equal (Publishable.toJson event.id)

/-- Whether the badge is shown. -/
def isBadgeVisible (visit : Visit Data) : Bool := visit.badge?.isSome

/-- What the page is told in order to show the theme and the badge. -/
def render (visit : Visit Data) : List (PageCall Data) :=
  let applied := visit.applied
  [.applyTheme applied.themeId applied.level,
    match visit.badge? with
    | some event => .showBadge event
    | none => .hideBadge]

/-- Something that happens during a visit. -/
inductive Step (Data Days : Type) where
  /-- A schedule, or the lack of one, is loaded on a day. -/
  | load (schedule : Option (Schedule Data Days)) (today : Date)
  /-- The visitor turns festival themes on or off. -/
  | setEnabled (isEnabled : Bool)
  /-- The visitor dismisses the badge. -/
  | dismiss
  /-- The page is shown again. -/
  | render
  /-- A preference is set from elsewhere. -/
  | setPreference (name : Text) (value : Json)
  /-- The visitor comes back. -/
  | revisit
deriving Repr

/-- Why a step fails. -/
inductive StepError where
  | field (error : FieldError)
  | setting (error : Preferences.SettingError)
  | request (error : Web.Raised)
deriving Repr, DecidableEq

/-- The outcome of a step: the visit after it, what the page was told, and the error if it fails. -/
structure Outcome (Data : Type) where
  visit : Visit Data
  calls : List (PageCall Data)
  failure : Option StepError := none
deriving Repr

/-- Loads a schedule. -/
def load (visit : Visit Data) (schedule : Option (Schedule Data Days)) (today : Date) :
    Outcome Data :=
  match Theme.selectWinner schedule today with
  | .ok selection =>
    let visit := { visit with selection }
    { visit, calls := visit.render }
  | .error error => { visit, calls := [], failure := some (.field error) }

/-- Sets a preference, and tells the page of it unless that fails. -/
def setPreference (visit : Visit Data) (device : Device) (name : Text) (value : Json)
    (tell : Visit Data → List (PageCall Data)) : Outcome Data :=
  match visit.preferences.setOn device name value with
  | (preferences, none) =>
    let visit := { visit with preferences }
    { visit, calls := tell visit }
  | (preferences, some error) =>
    { visit := { visit with preferences }, calls := [], failure := some (.setting error) }

def setEnabled (visit : Visit Data) (device : Device) (isEnabled : Bool) : Outcome Data :=
  visit.setPreference device enabledName (enabledValue isEnabled) render

/-- Dismisses the badge of the winner, if there is one. -/
def dismiss (visit : Visit Data) (device : Device) : Outcome Data :=
  match visit.selection.event with
  | none => { visit, calls := [] }
  | some event =>
    visit.setPreference device dismissedName (Publishable.toJson event.id) fun _ => [.hideBadge]

def step (visit : Visit Data) (device : Device) : Step Data Days → Outcome Data
  | .load schedule today => visit.load schedule today
  | .setEnabled isEnabled => visit.setEnabled device isEnabled
  | .dismiss => visit.dismiss device
  | .render => { visit, calls := visit.render }
  | .setPreference name value => visit.setPreference device name value fun _ => []
  | .revisit => { visit := .begin visit.preferences, calls := [] }

end Visit

end Observance

import Observance.Proofs.Storage.Preferences
import Observance.Proofs.Theme.Loading

/-! # Sessions

A session is a run of visits over the same preferences, together with what the page shows after
everything that it was told. What an action can do to a session, on a device that may fail, is said
once, as a relation. Every law about runs is had from it.
-/

namespace Observance

open Result

/-- What a page shows: the theme with its level, and the event of the badge. A page that was told
nothing shows neither. -/
structure Page where
  theme : Option (Text × Level)
  badge : Option (Event Text)
deriving Repr, DecidableEq

namespace Page

def blank : Page := ⟨none, none⟩

/-- The page after it was told something. -/
def tell (page : Page) : PageCall Text → Page
  | .applyTheme themeId level => { page with theme := some (themeId, level) }
  | .showBadge event => { page with badge := some event }
  | .hideBadge => { page with badge := none }

end Page

/-- What the visitor or the page does. -/
inductive Action where
  /-- A document is loaded as the schedule of a day. -/
  | load (document : Json) (today : Date)
  /-- The schedule of a day is loaded from the web. -/
  | loadFrom (exchange : Web.Exchange) (today : Date)
  /-- The visitor turns festival themes on or off. -/
  | setEnabled (isEnabled : Bool)
  /-- The visitor dismisses the badge. -/
  | dismiss
  /-- The page is shown again. -/
  | render
  /-- The visitor comes back to a new page. -/
  | revisit

namespace Action

/-- What an action loads, if it loads something: a schedule or the lack of one, and the day. -/
def load? : Action → Option (Option CheckedSchedule × Date)
  | load document today => some (Schedule.ofJson? document, today)
  | loadFrom exchange today => exchange.schedule?.toOption.map (·, today)
  | setEnabled _ | dismiss | render | revisit => none

def target (page : Page) : Action → Page
  | revisit => .blank
  | load .. | loadFrom .. | setEnabled _ | render | dismiss => page

end Action

namespace Visit

def act (visit : Visit Text) (device : Device) : Action → Outcome Text
  | .load document today => visit.load (Schedule.ofJson? document) today
  | .loadFrom exchange today => visit.loadFrom exchange today
  | .setEnabled isEnabled => visit.setEnabled device isEnabled
  | .dismiss => visit.dismiss device
  | .render => visit.step device (.render : Step Text Int)
  | .revisit => visit.step device (.revisit : Step Text Int)

def page (visit : Visit Text) : Page :=
  ⟨some (visit.applied.themeId, visit.applied.level), visit.badge?⟩

/-- A page that is told everything shows what it is to show, whatever it showed before. -/
theorem foldl_tell_render (visit : Visit Text) (page : Page) :
    visit.render.foldl Page.tell page = visit.page := by
  unfold render
  cases badge : visit.badge? <;> simp [Page.tell, Visit.page, badge]

end Visit

/-- A visit, and what its page shows. -/
structure Session where
  visit : Visit Text
  page : Page

namespace Session

def begin (preferences : Preferences) : Session := ⟨.begin preferences, .blank⟩

/-- A visit whose page shows what it is to show. -/
def shown (visit : Visit Text) : Session := ⟨visit, visit.page⟩

def after (session : Session) (action : Action) (device : Device := {}) : Session :=
  let outcome := session.visit.act device action
  ⟨outcome.visit, outcome.calls.foldl Page.tell (action.target session.page)⟩

/-- The session after several actions, on devices that may fail. -/
def runOn (session : Session) (steps : List (Action × Device)) : Session :=
  steps.foldl (fun session step => session.after step.1 step.2) session

/-- The session after several actions, on a device that does not fail. -/
def run (session : Session) (actions : List Action) : Session := actions.foldl after session

theorem run_cons (session : Session) (action : Action) (actions : List Action) :
    session.run (action :: actions) = (session.after action).run actions := rfl

theorem run_eq_runOn (session : Session) (actions : List Action) :
    session.run actions = session.runOn (actions.map fun action => (action, {})) := by
  rw [runOn, List.foldl_map]
  rfl

theorem runOn_append (session : Session) (first second : List (Action × Device)) :
    session.runOn (first ++ second) = (session.runOn first).runOn second :=
  List.foldl_append

theorem runOn_cons (session : Session) (step : Action × Device) (steps : List (Action × Device)) :
    session.runOn (step :: steps) = (session.after step.1 step.2).runOn steps := rfl

/-- What an action can do to a session. -/
inductive Transition (session : Session) (device : Device) : Action → Session → Prop
  | loaded {action : Action} {schedule : Option CheckedSchedule} {today : Date}
      {selection : Selection Text} (loads : action.load? = some (schedule, today))
      (selected : Theme.selectWinner schedule today = .ok selection) :
      Transition session device action (shown { session.visit with selection })
  | escaped {exchange : Web.Exchange} {today : Date} {error : Web.Raised}
      (failure : exchange.schedule? = .error error) :
      Transition session device (.loadFrom exchange today) session
  | enabledSet {isEnabled : Bool} {preferences : Preferences}
      (success : session.visit.preferences.setOn device Visit.enabledName
        (Visit.enabledValue isEnabled) = (preferences, none)) :
      Transition session device (.setEnabled isEnabled) (shown { session.visit with preferences })
  | enabledFailed {isEnabled : Bool} {preferences : Preferences}
      {error : Preferences.SettingError}
      (failure : session.visit.preferences.setOn device Visit.enabledName
        (Visit.enabledValue isEnabled) = (preferences, some error)) :
      Transition session device (.setEnabled isEnabled)
        ⟨{ session.visit with preferences }, session.page⟩
  | dismissed {event : Event Text} {preferences : Preferences}
      (winner : session.visit.selection.event = some event)
      (success : session.visit.preferences.setOn device Visit.dismissedName (.text event.id) =
        (preferences, none)) :
      Transition session device .dismiss
        ⟨{ session.visit with preferences }, { session.page with badge := none }⟩
  | dismissFailed {event : Event Text} {preferences : Preferences}
      {error : Preferences.SettingError}
      (winner : session.visit.selection.event = some event)
      (failure : session.visit.preferences.setOn device Visit.dismissedName (.text event.id) =
        (preferences, some error)) :
      Transition session device .dismiss ⟨{ session.visit with preferences }, session.page⟩
  | nothingDismissed (noWinner : session.visit.selection.event = none) :
      Transition session device .dismiss session
  | rendered : Transition session device .render (shown session.visit)
  | revisited : Transition session device .revisit (begin session.visit.preferences)

section After

variable {session : Session} {action : Action} {device : Device}

/-- An action that shows the page leaves it as it is to be. -/
theorem after_of_render {visit : Visit Text}
    (acted : session.visit.act device action = ⟨visit, visit.render, none⟩) :
    session.after action device = shown visit := by
  rw [after, acted]
  exact congrArg (Session.mk visit) (visit.foldl_tell_render _)

theorem transition_load (session : Session) (device : Device) (document : Json) (today : Date) :
    Transition session device (.load document today)
      (session.after (.load document today) device) := by
  have selected := Theme.selectWinner_ofJson? document today
  rw [after_of_render (by rw [Visit.act, Visit.load_eq selected])]
  exact .loaded rfl selected

theorem transition_loadFrom (session : Session) (device : Device) (exchange : Web.Exchange)
    (today : Date) : Transition session device (.loadFrom exchange today)
      (session.after (.loadFrom exchange today) device) := by
  cases fetched : exchange.schedule? with
  | error error =>
    simp only [after, Visit.act, Visit.loadFrom, fetched]
    exact .escaped fetched
  | ok schedule =>
    obtain ⟨selection, selected⟩ :=
      Visit.exists_selectWinner_of_schedule? fetched today
    have loads : (Action.loadFrom exchange today).load? = some (schedule, today) := by
      rw [Action.load?, fetched]
      rfl
    rw [after_of_render
      (by simp only [Visit.act, Visit.loadFrom, fetched, Visit.load_eq selected]; rfl)]
    exact .loaded loads selected

theorem transition_setEnabled (session : Session) (device : Device) (isEnabled : Bool) :
    Transition session device (.setEnabled isEnabled)
      (session.after (.setEnabled isEnabled) device) := by
  rcases set : session.visit.preferences.setOn device Visit.enabledName
    (Visit.enabledValue isEnabled) with ⟨preferences, _ | error⟩
  · rw [after_of_render
      (by simp only [Visit.act, Visit.setEnabled, Visit.setPreference, set]; rfl)]
    exact .enabledSet set
  · simp only [after, Visit.act, Visit.setEnabled, Visit.setPreference, set]
    exact .enabledFailed set

theorem transition_dismiss (session : Session) (device : Device) :
    Transition session device .dismiss (session.after .dismiss device) := by
  cases winner : session.visit.selection.event with
  | none =>
    simp only [after, Visit.act, Visit.dismiss, winner]
    exact .nothingDismissed winner
  | some event =>
    rcases set : session.visit.preferences.setOn device Visit.dismissedName (.text event.id) with
      ⟨preferences, _ | error⟩
    · simp only [after, Visit.act, Visit.dismiss, winner, Visit.setPreference,
        Publishable.toJson, set]
      exact .dismissed winner set
    · simp only [after, Visit.act, Visit.dismiss, winner, Visit.setPreference,
        Publishable.toJson, set]
      exact .dismissFailed winner set

/-- What happens in an action is one of the things that it can do. -/
theorem transition_after (session : Session) (action : Action) (device : Device := {}) :
    Transition session device action (session.after action device) := by
  cases action with
  | load document today => exact transition_load session device document today
  | loadFrom exchange today => exact transition_loadFrom session device exchange today
  | setEnabled isEnabled => exact transition_setEnabled session device isEnabled
  | dismiss => exact transition_dismiss session device
  | render =>
    rw [after_of_render rfl]
    exact .rendered
  | revisit => exact .revisited

end After

section Loading

/-- What was loaded last, after an action: a new page has loaded nothing. -/
def latest (last : Option (Option CheckedSchedule × Date)) (action : Action) :
    Option (Option CheckedSchedule × Date) :=
  match action with
  | .revisit => none
  | .load .. | .loadFrom .. | .setEnabled _ | .dismiss | .render => action.load?.or last

def latestLoad? (actions : List Action) : Option (Option CheckedSchedule × Date) :=
  actions.foldl latest none

/-- Whether a selection is the winner of what was loaded; before the first load it is none. -/
def IsWinner (selection : Selection Text) : Option (Option CheckedSchedule × Date) → Prop
  | none => selection = .nothing
  | some (schedule, today) => Theme.selectWinner schedule today = .ok selection

variable {session next : Session} {action : Action} {device : Device}

/-- An action that loads something shows its winner under the same preferences. -/
theorem Transition.eq_shown {schedule : Option CheckedSchedule} {today : Date}
    {selection : Selection Text} (transition : Transition session device action next)
    (loads : action.load? = some (schedule, today))
    (selected : Theme.selectWinner schedule today = .ok selection) :
    next = shown { session.visit with selection } := by
  cases transition with
  | loaded loadsToo selectedToo =>
    cases loads.symm.trans loadsToo
    cases selected.symm.trans selectedToo
    rfl
  | escaped failure =>
    rw [Action.load?, failure] at loads
    cases loads
  | enabledSet _ => cases loads
  | enabledFailed _ => cases loads
  | dismissed _ _ => cases loads
  | dismissFailed _ _ => cases loads
  | nothingDismissed _ => cases loads
  | rendered => cases loads
  | revisited => cases loads

/-- Only loading changes the selection, whatever the preferences. -/
theorem Transition.isWinner {last : Option (Option CheckedSchedule × Date)}
    (transition : Transition session device action next)
    (winner : IsWinner session.visit.selection last) :
    IsWinner next.visit.selection (latest last action) := by
  cases transition with
  | @loaded action schedule today selection loads selected =>
    have newest : latest last action = some (schedule, today) := by
      cases action with
      | revisit => cases loads
      | _ => rw [latest, loads]; rfl
    rw [newest]
    exact selected
  | escaped failure =>
    rw [latest, Action.load?, failure]
    exact winner
  | enabledSet _ => exact winner
  | enabledFailed _ => exact winner
  | dismissed _ _ => exact winner
  | dismissFailed _ _ => exact winner
  | nothingDismissed _ => exact winner
  | rendered => exact winner
  | revisited => exact rfl

theorem isWinner_foldl {last : Option (Option CheckedSchedule × Date)}
    (winner : IsWinner session.visit.selection last) (steps : List (Action × Device)) :
    IsWinner (session.runOn steps).visit.selection ((steps.map Prod.fst).foldl latest last) := by
  induction steps generalizing session last with
  | nil => exact winner
  | cons step steps ih => exact ih ((transition_after session step.1 step.2).isWinner winner)

/-- After any actions, the selection is the winner of what was loaded last. -/
theorem isWinner_runOn (preferences : Preferences) (steps : List (Action × Device)) :
    IsWinner ((begin preferences).runOn steps).visit.selection
      (latestLoad? (steps.map Prod.fst)) :=
  isWinner_foldl (show IsWinner (begin preferences).visit.selection none from rfl) steps

theorem isWinner_run (preferences : Preferences) (actions : List Action) :
    IsWinner ((begin preferences).run actions).visit.selection (latestLoad? actions) := by
  have winner := isWinner_runOn preferences (actions.map fun action => (action, {}))
  rwa [← run_eq_runOn, List.map_map, show Prod.fst ∘ (fun action : Action => (action,
    ({} : Device)))
    = id from rfl, List.map_id] at winner

end Loading

end Session

end Observance

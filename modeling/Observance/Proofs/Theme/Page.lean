import Observance.Proofs.Storage.Refinement
import Observance.Proofs.Theme.Session

/-! # What the page shows

Once a page was shown, it always shows what it is to show: the theme that is applied, and the badge
exactly if it is visible. Every action that shows the page tells it everything. Dismissing tells it
only to hide the badge, and that is enough, because the preference that it sets hides the badge of
the winner and changes nothing else.

Preferences in a file can break this in two ways. A set that fails after the file was opened leaves
the file empty or torn, and the page is not told that the preferences are gone. And a file has the
id of a dismissed event back as another one if the id has the two halves of a pair in a row.
-/

namespace Observance

open Result

namespace Visit

variable {visit : Visit Text} {preferences : Preferences}

theorem keeps_enabledName (preferences : Preferences) : preferences.Keeps enabledName :=
  preferences.keeps_ofString _

theorem keeps_dismissedName (preferences : Preferences) : preferences.Keeps dismissedName :=
  preferences.keeps_ofString _

/-- Turning themes on or off changes one preference, also in a file. -/
theorem get?_set_enabled {isEnabled : Bool} {next : Preferences}
    (success : preferences.set enabledName (enabledValue isEnabled) = .ok next) (other : Text) :
    next.get? other =
      if other = enabledName then some (enabledValue isEnabled) else preferences.get? other :=
  Preferences.get?_set (keeps_enabledName _)
    (by cases isEnabled <;> exact Preferences.keeps_ofString ..)
    success other

theorem isEnabled_congr (same : preferences.get? enabledName = visit.preferences.get? enabledName) :
    ({ visit with preferences } : Visit Text).isEnabled = visit.isEnabled := by
  simp only [isEnabled, preference, same]

theorem applied_congr (same : ({ visit with preferences } : Visit Text).isEnabled =
      visit.isEnabled) : ({ visit with preferences } : Visit Text).applied = visit.applied := by
  simp only [applied, same]

/-- What is applied has the event of the winner or none. -/
theorem event_of_applied {event : Event Text} (applied : visit.applied.event = some event) :
    visit.selection.event = some event := by
  unfold Visit.applied at applied
  split at applied
  · exact applied
  · cases applied

theorem badge?_eq_some {event : Event Text} :
    visit.badge? = some event ↔
      visit.applied.themeId ≠ Theme.noTheme ∧ visit.applied.event = some event ∧
        visit.dismissed.equal (.text event.id) = false := by
  simp only [badge?, Theme.isNone_eq]
  by_cases isNone : visit.applied.themeId = Theme.noTheme
  · simp [isNone]
  · simp [isNone, Option.filter_eq_some_iff, Publishable.toJson]

/-- With the preference that names it as dismissed, the badge of an event is not shown. -/
theorem badge?_of_dismissed {event : Event Text}
    (winner : visit.selection.event = some event) (keeps : visit.preferences.Keeps event.id)
    (success : visit.preferences.set dismissedName (.text event.id) = .ok preferences) :
    ({ visit with preferences } : Visit Text).badge? = none := by
  rw [Option.eq_none_iff_forall_ne_some]
  intro other shown
  obtain ⟨-, applied, notDismissed⟩ := badge?_eq_some.mp shown
  have selected := event_of_applied applied
  cases winner.symm.trans selected
  rw [dismissed, preference, Preferences.get?_set (keeps_dismissedName _) keeps success,
    if_pos rfl, Option.getD_some, Theme.equal_text] at notDismissed
  simp at notDismissed

theorem enabledName_ne_dismissedName : enabledName ≠ dismissedName := by decide

/-- Dismissing the badge of the winner hides it, and the theme stays as it was. -/
theorem page_of_dismissed {event : Event Text} (winner : visit.selection.event = some event)
    (keeps : visit.preferences.Keeps event.id)
    (success : visit.preferences.set dismissedName (.text event.id) = .ok preferences) :
    ({ visit with preferences } : Visit Text).page = { visit.page with badge := none } := by
  have same : preferences.get? enabledName = visit.preferences.get? enabledName := by
    rw [Preferences.get?_set (keeps_dismissedName _) keeps success,
      if_neg enabledName_ne_dismissedName]
  rw [page, badge?_of_dismissed winner keeps success, applied_congr (isEnabled_congr same)]
  rfl

end Visit

namespace Session

variable {session : Session} {action : Action} {device : Device}

/-- Whether the page shows what it is to show. -/
def Agrees (session : Session) : Prop := session.page = session.visit.page

/-- The actions that show the page. Loading does, unless it raises an error that no client handles;
turning themes on or off does if it completes. -/
inductive Shows (session : Session) (device : Device) : Action → Prop
  | load {document : Json} {today : Date} : Shows session device (.load document today)
  | loadFrom {exchange : Web.Exchange} {today : Date} {schedule : Option CheckedSchedule}
      (received : exchange.schedule? = .ok schedule) :
      Shows session device (.loadFrom exchange today)
  | setEnabled {isEnabled : Bool} {preferences : Preferences}
      (completed : session.visit.preferences.setOn device Visit.enabledName
        (Visit.enabledValue isEnabled) = (preferences, none)) :
      Shows session device (.setEnabled isEnabled)
  | render : Shows session device .render

/-- An action that shows the page leaves it showing what it is to show, whatever it showed before.
-/
theorem agrees_of_shows {next : Session} (transition : Transition session device action next)
    (shows : session.Shows device action) : next.Agrees := by
  cases transition with
  | loaded _ _ => exact rfl
  | enabledSet _ => exact rfl
  | rendered => exact rfl
  | escaped failure =>
    cases shows with
    | loadFrom received => cases failure.symm.trans received
  | enabledFailed failure =>
    cases shows with
    | setEnabled completed => cases failure.symm.trans completed
  | dismissed _ _ => cases shows
  | dismissFailed _ _ => cases shows
  | nothingDismissed _ => cases shows
  | revisited => cases shows

/-- Whether what an action sets is kept and, if it cannot be set, the other preferences are. -/
def keeps (session : Session) (device : Device) : Action → Bool
  | .setEnabled _ => session.visit.preferences.isInMemory || device.spares
  | .dismiss => session.visit.selection.event.all fun event =>
      session.visit.preferences.isInMemory || device.spares && event.id.isUnpaired
  | .load .. | .loadFrom .. | .render | .revisit => true

/-- Whether all steps of a run keep what they set and the other preferences. -/
def keepsAll (session : Session) : List (Action × Device) → Bool
  | [] => true
  | step :: steps =>
    session.keeps step.2 step.1 && (session.after step.1 step.2).keepsAll steps

theorem keeps_dismiss {event : Event Text} (keeps : session.keeps device .dismiss = true)
    (winner : session.visit.selection.event = some event) :
    session.visit.preferences.isInMemory = true ∨
      device.spares = true ∧ event.id.isUnpaired = true := by
  simpa [Session.keeps, winner] using keeps

/-- An action on the same page leaves it showing what it is to show. -/
theorem agrees_of_transition {next : Session} (transition : Transition session device action next)
    (agrees : session.Agrees) (stays : action ≠ .revisit)
    (keeps : session.keeps device action = true) : next.Agrees := by
  cases transition with
  | loaded _ _ => exact rfl
  | enabledSet _ => exact rfl
  | rendered => exact rfl
  | dismissed winner success =>
    have kept := (keeps_dismiss keeps winner).imp_right And.right
    rw [Agrees, Visit.page_of_dismissed winner kept (Preferences.set_of_setOn success), agrees]
  | escaped _ => exact agrees
  | enabledFailed failure =>
    rw [Visit.enabledValue] at failure
    rw [Preferences.eq_of_setOn (Bool.or_eq_true_iff.mp keeps) failure]
    exact agrees
  | dismissFailed winner failure =>
    rw [Preferences.eq_of_setOn ((keeps_dismiss keeps winner).imp_right And.left) failure]
    exact agrees
  | nothingDismissed _ => exact agrees
  | revisited => exact absurd rfl stays

theorem agrees_runOn (agrees : session.Agrees) {steps : List (Action × Device)}
    (stay : ∀ step ∈ steps, step.1 ≠ .revisit) (keeps : session.keepsAll steps = true) :
    (session.runOn steps).Agrees := by
  induction steps generalizing session with
  | nil => exact agrees
  | cons step steps ih =>
    obtain ⟨first, others⟩ := List.forall_mem_cons.mp stay
    obtain ⟨kept, keptLater⟩ := Bool.and_eq_true_iff.mp keeps
    exact ih (agrees_of_transition (transition_after session step.1 step.2) agrees first kept)
      others keptLater

theorem isInMemory_after (session : Session) (action : Action) (device : Device) :
    (session.after action device).visit.preferences.isInMemory =
      session.visit.preferences.isInMemory := by
  have transition := transition_after session action device
  generalize session.after action device = next at transition
  cases transition with
  | enabledSet success => exact Preferences.isInMemory_setOn success
  | enabledFailed failure => exact Preferences.isInMemory_setOn failure
  | dismissed _ success => exact Preferences.isInMemory_setOn success
  | dismissFailed _ failure => exact Preferences.isInMemory_setOn failure
  | loaded _ _ => rfl
  | escaped _ => rfl
  | nothingDismissed _ => rfl
  | rendered => rfl
  | revisited => rfl

/-- Preferences in memory are kept, whatever is set and on which devices. -/
theorem keepsAll_of_isInMemory (memory : session.visit.preferences.isInMemory = true)
    (steps : List (Action × Device)) : session.keepsAll steps = true := by
  induction steps generalizing session with
  | nil => rfl
  | cons step steps ih =>
    have kept : session.keeps step.2 step.1 = true := by
      cases step.1 <;> simp [keeps, memory]
    rw [keepsAll, kept, ih ((isInMemory_after session step.1 step.2).trans memory), Bool.true_and]

/-- A new page that loads what the old one loaded last, over the same preferences, shows the
same. -/
theorem page_reloaded {last : Option CheckedSchedule × Date} (agrees : session.Agrees)
    (winner : IsWinner session.visit.selection (some last)) {reload : Action}
    (loads : reload.load? = some last) : (session.run [.revisit, reload]).page = session.page := by
  have reloaded : (session.after .revisit).after reload = shown session.visit :=
    (transition_after (session.after .revisit) reload).eq_shown loads winner
  rw [run_cons, run_cons, reloaded, agrees]
  rfl

/-- Once an action has shown the page, the page always shows the theme that is applied and, exactly
if it is visible, the badge of the winner, as long as what is set is kept and a set that fails
leaves the other preferences. So a later visit that loads the same schedule on the same day shows
the same. -/
theorem page_agrees (preferences : Preferences) (before later : List (Action × Device))
    (action : Action) (device : Device)
    (shows : ((begin preferences).runOn before).Shows device action)
    (stay : ∀ step ∈ later, step.1 ≠ .revisit)
    (keeps : (((begin preferences).runOn before).after action device).keepsAll later = true) :
    let session := (begin preferences).runOn (before ++ (action, device) :: later)
    session.page.theme = some (session.visit.applied.themeId, session.visit.applied.level) ∧
    (session.page.badge.isSome = true ↔ session.visit.isBadgeVisible = true) ∧
    (∀ event, session.page.badge = some event → session.visit.selection.event = some event) ∧
    ∀ last reload,
      latestLoad? ((before ++ (action, device) :: later).map Prod.fst) = some last →
      reload.load? = some last → (session.run [.revisit, reload]).page = session.page := by
  intro session
  have agrees : session.Agrees := by
    rw [show session = _ from runOn_append .., runOn_cons]
    exact agrees_runOn (agrees_of_shows (transition_after _ action device) shows) stay keeps
  have winner := isWinner_runOn preferences (before ++ (action, device) :: later)
  refine ⟨?_, ?_, fun event shown => ?_, fun last reload loaded loads => ?_⟩
  · rw [agrees]
    rfl
  · rw [agrees]
    rfl
  · rw [agrees] at shown
    exact Visit.event_of_applied (Visit.badge?_eq_some.mp shown).2.1
  · rw [loaded] at winner
    exact page_reloaded agrees winner loads

section Dismissed

def documentOf (id : Text) : Json :=
  .object [
    ("priorityOrder", .array [.text "school"]),
    ("resolvedEvents", .array [.object [("id", .text id), ("name", .text "Fair"),
      ("importance", .text "school"), ("themeId", .text "bunting"),
      ("startDate", .text "2024-06-15"), ("endDate", .text "2024-06-15")]])]

def fairDocument : Json := documentOf "fair"

def fairDay : Date := ⟨2024, 6, 15, by decide⟩

/-- Preferences in a file that does not exist yet. -/
def newFile : Preferences := .file (FileTree.empty []) "preferences.json"

def fullDevice : Device := { writing := some ⟨"OSError", "No space left on device"⟩ }

/-- After the badge of the event was dismissed on a second try, because the file could not be opened
at first, the page shows the theme without the badge, and so does that of a later visit. -/
theorem page_agrees_dismissed :
    let session := (begin newFile).runOn
      [(.load fairDocument fairDay, {}),
        (.dismiss, { opening := some ⟨"OSError", "Too many open files"⟩ }), (.dismiss, {})]
    session.page = ⟨some ("bunting", .full), none⟩ ∧
      (session.run [.revisit, .load fairDocument fairDay]).page = session.page := by
  have agrees := page_agrees newFile []
    [(.dismiss, { opening := some ⟨"OSError", "Too many open files"⟩ }), (.dismiss, {})]
    (.load fairDocument fairDay) {} .load (by simp) (by decide +kernel)
  exact ⟨by decide +kernel, agrees.2.2.2 _ _ rfl rfl⟩

/-- The page may show what it is not to show: no badge for an event whose id has the two halves of a
pair, although its badge is visible after it was dismissed, and no theme, although one is applied
after the preference that turned themes off was lost with the file. -/
theorem exists_not_agrees :
    let paired := (begin newFile).runOn
      [(.load (documentOf [.ofNat 0xD83D, .ofNat 0xDE00]) fairDay, {}), (.dismiss, {})]
    let emptied := (begin newFile).runOn
      [(.setEnabled false, {}), (.load fairDocument fairDay, {}), (.dismiss, fullDevice)]
    (paired.page.badge = none ∧ paired.visit.isBadgeVisible = true) ∧
      emptied.page.theme = some (Theme.noTheme, .subtle) ∧
      emptied.visit.applied.themeId = "bunting" := by
  decide +kernel

end Dismissed

end Session

end Observance

import Observance.Proofs.Theme.Dismissal

/-! # Display and computation

The preference decides what is displayed, never what is computed. Two runs that load the same have
the same selection, whatever preferences they began with and whatever else was done. So turning
themes off hides the theme and the badge, and turning them on again shows what would have been shown
anyway.
-/

namespace Observance

namespace Visit

variable {visit : Visit Text} {preferences : Preferences}

theorem isEnabled_of_set {next : Preferences} {isEnabled : Bool} {selection : Selection Text}
    (success : preferences.set enabledName (enabledValue isEnabled) = .ok next) :
    (⟨next, selection⟩ : Visit Text).isEnabled = isEnabled := by
  rw [Visit.isEnabled, preference, get?_set_enabled success, if_pos rfl, Option.getD_some]
  cases isEnabled <;> simp [enabledValue]

/-- While themes are turned off, there is no theme and no badge to show. -/
theorem page_of_not_isEnabled (hidden : visit.isEnabled = false) :
    visit.page = ⟨some (Theme.noTheme, .subtle), none⟩ := by
  have applied : visit.applied = .nothing := by
    rw [Visit.applied, hidden]
    rfl
  have badge : visit.badge? = none := by
    rw [Option.eq_none_iff_forall_ne_some]
    intro event shown
    obtain ⟨notNone, -⟩ := badge?_eq_some.mp shown
    rw [applied] at notNone
    exact notNone rfl
  rw [page, applied, badge]
  rfl

/-- What a page is to show depends on the winner, whether themes are shown, and the event that was
dismissed last. -/
theorem page_congr (sameEnabled : ({ visit with preferences } : Visit Text).isEnabled =
      visit.isEnabled)
    (sameDismissed : preferences.get? dismissedName = visit.preferences.get? dismissedName) :
    ({ visit with preferences } : Visit Text).page = visit.page := by
  simp only [page, badge?, applied_congr sameEnabled, dismissed, preference, sameDismissed]

end Visit

namespace Session

section Selection

theorem foldl_latest {actions : List Action} (stay : ∀ action ∈ actions, action ≠ .revisit)
    (last : Option (Option CheckedSchedule × Date)) :
    actions.foldl latest last = (actions.filterMap Action.load?).getLast?.or last := by
  induction actions generalizing last with
  | nil => rfl
  | cons action actions ih =>
    obtain ⟨first, others⟩ := List.forall_mem_cons.mp stay
    have newest : latest last action = action.load?.or last := by
      cases action with
      | revisit => exact absurd rfl first
      | _ => rfl
    rw [List.foldl_cons, ih others, newest, List.filterMap_cons]
    cases action.load? with
    | none => rfl
    | some load =>
      cases later : (actions.filterMap Action.load?).getLast? <;>
        simp [List.getLast?_cons, later]

/-- On one page, what was loaded last is the last of what was loaded. -/
theorem latestLoad?_eq {actions : List Action} (stay : ∀ action ∈ actions, action ≠ .revisit) :
    latestLoad? actions = (actions.filterMap Action.load?).getLast? := by
  rw [latestLoad?, foldl_latest stay, Option.or_none]

theorem IsWinner.unique {selection other : Selection Text}
    {last : Option (Option CheckedSchedule × Date)} (winner : IsWinner selection last)
    (winnerToo : IsWinner other last) : selection = other := by
  cases last with
  | none => exact winner.trans winnerToo.symm
  | some last =>
    cases winner.symm.trans winnerToo
    rfl

end Selection

section Toggle

variable {session : Session}

/-- Where preferences are writable, turning themes on or off sets the preference and shows the
page. -/
theorem exists_after_setEnabled (session : Session)
    (writable : session.visit.preferences.IsWritable) (isEnabled : Bool) : ∃ preferences,
      session.visit.preferences.set Visit.enabledName (Visit.enabledValue isEnabled) =
        .ok preferences ∧
      session.after (.setEnabled isEnabled) = shown { session.visit with preferences } := by
  have transition := transition_after session (.setEnabled isEnabled)
  obtain ⟨preferences, success⟩ := writable Visit.enabledName (Visit.enabledValue isEnabled)
  refine ⟨preferences, success, ?_⟩
  generalize session.after (.setEnabled isEnabled) = next at transition
  cases transition with
  | enabledSet successToo =>
    cases (Preferences.setOn_of_set success).symm.trans successToo
    rfl
  | enabledFailed failure => cases (Preferences.setOn_of_set success).symm.trans failure
  | loaded loads _ => cases loads

/-- Showing a page again changes nothing. -/
theorem run_renders (visit : Visit Text) (count : Nat) :
    (shown visit).run (List.replicate count .render) = shown visit := by
  have again : (shown visit).after .render = shown visit := after_of_render rfl
  induction count with
  | zero => rfl
  | succ count ih => rw [List.replicate_succ, run_cons, again, ih]

/-- Turning themes off hides the theme and the badge. Turning them on again shows the page as if
they had not been turned off, and does not change which event was dismissed. -/
theorem toggled (enabled : session.visit.isEnabled = true)
    (writable : session.visit.preferences.IsWritable) (count : Nat) :
    let hidden := session.run (.setEnabled false :: List.replicate count .render)
    hidden.page = ⟨some (Theme.noTheme, .subtle), none⟩ ∧
      (hidden.after (.setEnabled true)).page = (session.after .render).page ∧
      (hidden.after (.setEnabled true)).visit.preferences.get? Visit.dismissedName =
        session.visit.preferences.get? Visit.dismissedName := by
  intro hidden
  obtain ⟨off, turnedOff, afterOff⟩ := exists_after_setEnabled session writable false
  have isHidden : hidden = shown { session.visit with preferences := off } := by
    rw [show hidden = _ from run_cons .., afterOff, run_renders]
  obtain ⟨on, turnedOn, afterOn⟩ :=
    exists_after_setEnabled (shown { session.visit with preferences := off })
      (Preferences.isWritable_of_set turnedOff) true
  have dismissed : on.get? Visit.dismissedName =
      session.visit.preferences.get? Visit.dismissedName := by
    have apart := Visit.enabledName_ne_dismissedName.symm
    exact (Visit.get?_set_enabled turnedOn _).trans ((if_neg apart).trans
      ((Visit.get?_set_enabled turnedOff _).trans (if_neg apart)))
  have enabledAgain : ({ session.visit with preferences := on } : Visit Text).isEnabled =
      session.visit.isEnabled := by
    rw [enabled]
    exact Visit.isEnabled_of_set turnedOn
  have rendered : session.after .render = shown session.visit := after_of_render rfl
  rw [isHidden, afterOn, rendered]
  exact ⟨Visit.page_of_not_isEnabled (Visit.isEnabled_of_set turnedOff),
    Visit.page_congr enabledAgain dismissed, dismissed⟩

end Toggle

/-- The preference suppresses display, never computation. Whatever two visits began with and did
besides loading the same, they have the same selection, which is the winner of what was loaded last.
And where themes are shown and preferences are writable, turning themes off, showing the page any
number of times, and turning them on again shows what would have been shown before. -/
theorem display_only (preferences others : Preferences) :
    (∀ actions otherActions : List Action, (∀ action ∈ actions, action ≠ .revisit) →
      (∀ action ∈ otherActions, action ≠ .revisit) →
      actions.filterMap Action.load? = otherActions.filterMap Action.load? →
        ((begin preferences).run actions).visit.selection =
          ((begin others).run otherActions).visit.selection ∧
        ∀ schedule today, (actions.filterMap Action.load?).getLast? = some (schedule, today) →
          Theme.selectWinner schedule today =
            .ok ((begin preferences).run actions).visit.selection) ∧
    ∀ (actions : List Action) (count : Nat),
      let session := (begin preferences).run actions
      let hidden := session.run (.setEnabled false :: List.replicate count .render)
      session.visit.isEnabled = true → session.visit.preferences.IsWritable →
        hidden.page = ⟨some ("none", .subtle), none⟩ ∧
        (hidden.after (.setEnabled true)).page = (session.after .render).page ∧
        (hidden.after (.setEnabled true)).visit.preferences.get? Visit.dismissedName =
          session.visit.preferences.get? Visit.dismissedName := by
  refine ⟨fun actions otherActions stay stayToo same => ?_,
    fun actions count enabled writable => toggled enabled writable count⟩
  have winner := isWinner_run preferences actions
  have winnerToo := isWinner_run others otherActions
  rw [latestLoad?_eq stay] at winner
  rw [latestLoad?_eq stayToo, ← same] at winnerToo
  refine ⟨winner.unique winnerToo, fun schedule today last => ?_⟩
  rw [last] at winner
  exact winner

/-- In a new file, turning themes off before the schedule is loaded does not change the winner, and
turning them off and on again later shows its theme and its badge. -/
theorem display_only_fair :
    ((begin newFile).run
        [.setEnabled false, .load fairDocument fairDay, .dismiss]).visit.selection =
      ((begin (.memory [])).run [.load fairDocument fairDay]).visit.selection ∧
    ((begin newFile).run [.load fairDocument fairDay, .setEnabled false, .render]).page =
      ⟨some ("none", .subtle), none⟩ ∧
    ((begin newFile).run [.load fairDocument fairDay, .setEnabled false, .render,
      .setEnabled true]).page =
        ⟨some ("bunting", .full), some ⟨"fair", "Fair", "school", "bunting", "2024-06-15",
          "2024-06-15"⟩⟩ := by
  obtain ⟨selections, toggles⟩ := display_only newFile (.memory [])
  obtain ⟨hidden, shownAgain, -⟩ := toggles [.load fairDocument fairDay] 1 (by decide +kernel)
    (isWritable_run (begin newFile) isWritable_newFile _)
  refine ⟨(selections [.setEnabled false, .load fairDocument fairDay, .dismiss]
    [.load fairDocument fairDay] (by simp) (by simp) rfl).1, hidden, shownAgain.trans ?_⟩
  decide +kernel

end Session

end Observance

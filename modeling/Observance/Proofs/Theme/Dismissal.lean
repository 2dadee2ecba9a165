import Observance.Proofs.Theme.Page

/-! # Dismissed badges

Only one dismissed event is remembered, the last, and it is remembered over any number of visits.
The preference that holds it is set by dismissing the badge of a winner and by nothing else, so a
badge is visible exactly if themes are shown, the winner has one, and the winner is not the last
event that was dismissed. A file has to keep the ids of the events that are dismissed.
-/

namespace Observance

open Result

namespace Theme

/-- The theme of a winner is that of its event. -/
theorem themeId_of_selectWinner {schedule : Option CheckedSchedule} {today : Date}
    {selection : Selection Text} {event : Event Text}
    (selected : selectWinner schedule today = .ok selection)
    (winner : selection.event = some event) : selection.themeId = event.themeId := by
  cases schedule with
  | none =>
    cases selected
    cases winner
  | some schedule =>
    obtain ⟨candidates, -, selected⟩ := bind_eq_ok.mp selected
    cases candidates with
    | nil =>
      cases pure_eq_ok.mp selected
      cases winner
    | cons candidate candidates =>
      obtain ⟨priorityOrder, -, selected⟩ := bind_eq_ok.mp selected
      obtain ⟨rank, -, selected⟩ := bind_eq_ok.mp selected
      obtain ⟨best, -, selected⟩ := bind_eq_ok.mp selected
      obtain ⟨level, -, selected⟩ := bind_eq_ok.mp selected
      cases pure_eq_ok.mp selected
      cases winner
      rfl

end Theme

namespace Visit

variable {visit : Visit Text}

end Visit

namespace Session

variable {session next : Session} {action : Action}

theorem IsWinner.themeId {selection : Selection Text}
    {last : Option (Option CheckedSchedule × Date)} {event : Event Text}
    (winner : IsWinner selection last) (selected : selection.event = some event) :
    selection.themeId = event.themeId := by
  cases last with
  | none =>
    rw [winner] at selected
    cases selected
  | some last => exact Theme.themeId_of_selectWinner winner selected

/-- An action leaves preferences writable. -/
theorem Transition.isWritable (transition : Transition session {} action next)
    (writable : session.visit.preferences.IsWritable) : next.visit.preferences.IsWritable := by
  cases transition with
  | enabledSet success => exact Preferences.isWritable_of_set (Preferences.set_of_setOn success)
  | dismissed _ success => exact Preferences.isWritable_of_set (Preferences.set_of_setOn success)
  | enabledFailed failure =>
    rw [Visit.enabledValue] at failure
    rw [Preferences.eq_of_setOn (.inr rfl) failure]
    exact writable
  | dismissFailed _ failure =>
    rw [Preferences.eq_of_setOn (.inr rfl) failure]
    exact writable
  | loaded _ _ => exact writable
  | escaped _ => exact writable
  | nothingDismissed _ => exact writable
  | rendered => exact writable
  | revisited => exact writable

theorem isWritable_run (session : Session) (writable : session.visit.preferences.IsWritable)
    (actions : List Action) : (session.run actions).visit.preferences.IsWritable := by
  induction actions generalizing session with
  | nil => exact writable
  | cons action actions ih => exact ih _ ((transition_after session action).isWritable writable)

section Returning

theorem isWritable_newFile : newFile.IsWritable :=
  Preferences.isWritable_iff.mpr ⟨[], .null, exists_of_isSome_toOption (by decide +kernel)⟩

end Returning

end Session

end Observance

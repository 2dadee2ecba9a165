import Mathlib.Data.List.Induction
import Observance.Proofs.Feed.Insertion

/-! # Feeds one after another

Of a feed, all that lines put below it can depend on is the draft that is open at its end. There is
one exactly if the last line that opens or closes an event opens it. So a feed that leaves none open
and ends with a line feed can be followed by any text that does not go on with its last line: the
events of the two are those of the one and then those of the other.
-/

namespace Observance.Feed

section Markers

variable {lines : List Text} {line : Text}

def isMarker (line : Text) : Bool := line == opening || line == closing

/-- Whether lines leave no event open: the last of them that opens or closes an event, if there is
one, closes it. -/
def LeavesNoneOpen (lines : List Text) : Prop :=
  ∀ last ∈ (lines.filter isMarker).getLast?, last = closing

instance (lines : List Text) : Decidable (LeavesNoneOpen lines) := by
  unfold LeavesNoneOpen
  infer_instance

/-- Other lines leave an event open or not as the lines above did. -/
theorem draftAfter_eq_none_of_not_isMarker {current : Option Draft}
    (unmarked : isMarker line = false) : draftAfter current line = none ↔ current = none := by
  simp only [isMarker, Bool.or_eq_false_iff, beq_eq_false_iff_ne] at unmarked
  rw [draftAfter, if_neg unmarked.1, if_neg unmarked.2, Option.map_eq_none_iff]

/-- A draft is open after some lines unless they leave none open. -/
theorem foldl_draftAfter_eq_none : lines.foldl draftAfter none = none ↔ LeavesNoneOpen lines := by
  induction lines using List.reverseRecOn with
  | nil => simp [LeavesNoneOpen]
  | append_singleton lines line ih =>
    rw [LeavesNoneOpen, List.foldl_append, List.foldl_cons, List.foldl_nil, List.filter_append,
      List.getLast?_append]
    cases marked : isMarker line with
    | false =>
      rw [draftAfter_eq_none_of_not_isMarker marked, ih, LeavesNoneOpen]
      simp [marked]
    | true =>
      simp only [isMarker, Bool.or_eq_true, beq_iff_eq] at marked
      rcases marked with rfl | rfl
      · simp [draftAfter, isMarker, closing_ne_opening.symm]
      · simp [draftAfter, isMarker, closing_ne_opening]

end Markers

/-- The events of a feed that leaves none open come before those of any text put below it. -/
theorem events_append {first second : Text}
    (ended : first = [] ∨ first.getLast? = some (.char '\n'))
    (settled : LeavesNoneOpen (unfoldLines first))
    (begins : isContinuation second = false) :
    events (first ++ second) = events first ++ events second := by
  rcases ended with rfl | ended
  · rfl
  · obtain ⟨before, isFirst⟩ := List.getLast?_eq_some_iff.mp ended
    obtain ⟨lines, unfolded⟩ := exists_unfoldLines_append before
    have own : unfoldLines first = lines ++ [[]] := by
      rw [isFirst]
      exact unfolded [] rfl
    have both : unfoldLines (first ++ second) = lines ++ unfoldLines second := by
      rw [isFirst, List.append_assoc]
      exact unfolded _ (joinLines_splitLines_fst begins)
    -- The line that begins after the line feed is still empty, and changes nothing.
    have closed : lines.foldl draftAfter none = none := by
      rw [own, ← foldl_draftAfter_eq_none, List.foldl_append, List.foldl_cons,
        List.foldl_nil] at settled
      exact (draftAfter_eq_none_of_not_isMarker (by decide)).mp settled
    have nothing : scan none [[]] = [] := rfl
    have alone : scan none (lines ++ [[]]) = scan none lines := by
      rw [scan_append, closed, nothing, List.append_nil]
    rw [events, events, events, completes, completes, completes, both, own, alone, scan_append,
      closed, List.filterMap_append]

section Stray

def easterFeed : Text :=
  "BEGIN:VEVENT\r\nSUMMARY:Easter\r\nDTSTART;VALUE=DATE:20250420\r\nEND:VEVENT\r\n"

/-- A feed that begins with an end that belongs to no event. -/
def strayFeed : Text :=
  "DTEND;VALUE=DATE:20250425\nEND:VEVENT\nBEGIN:VEVENT\nSUMMARY:Fair\nDTSTART:20250621\nEND:VEVENT\n"

/-- The end is not taken for one of the event above it. -/
theorem events_append_stray :
    events (easterFeed ++ strayFeed) = events easterFeed ++ events strayFeed :=
  events_append (.inr (by decide +kernel)) (by decide +kernel) (by decide +kernel)

end Stray

end Observance.Feed

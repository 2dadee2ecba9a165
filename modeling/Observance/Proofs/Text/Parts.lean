import Mathlib.Data.List.TakeWhile
import Observance.Text.Blank
import Observance.Text.Split

/-! # Parts that are had back

Parts without a mark are had back from the text that has the mark between them, and a text that
begins with other characters than blanks keeps them when it is trimmed.
-/

namespace Observance.Text

variable {mark : CodePoint} {part : Text}

section Splitting

theorem bne_of_not_mem (unmarked : mark ∉ part) : ∀ c ∈ part, (c != mark) = true := by
  intro c member
  rw [bne_iff_ne]
  rintro rfl
  exact unmarked member

theorem cutAt_append (unmarked : mark ∉ part) (rest : Text) :
    cutAt mark (part ++ mark :: rest) = (part, rest) := by
  have before := bne_of_not_mem unmarked
  rw [cutAt, List.takeWhile_append_of_pos before, List.dropWhile_append_of_pos before]
  simp

theorem cutAt_of_not_mem (unmarked : mark ∉ part) : cutAt mark part = (part, []) := by
  have before := bne_of_not_mem unmarked
  rw [cutAt, List.takeWhile_eq_self_iff.mpr before, List.dropWhile_eq_nil_iff.mpr before]
  rfl

theorem splitAt_of_not_mem (unmarked : mark ∉ part) : splitAt mark part = [part] := by
  induction part with
  | nil => rfl
  | cons c part ih =>
    rw [List.mem_cons, not_or] at unmarked
    rw [splitAt, if_neg (by simpa using Ne.symm unmarked.1), ih unmarked.2]

theorem splitAt_append (unmarked : mark ∉ part) (rest : Text) :
    splitAt mark (part ++ mark :: rest) = part :: splitAt mark rest := by
  induction part with
  | nil => simp [splitAt]
  | cons c part ih =>
    rw [List.mem_cons, not_or] at unmarked
    rw [List.cons_append, splitAt, if_neg (by simpa using Ne.symm unmarked.1), ih unmarked.2]

theorem joinWith_cons_cons (mark : CodePoint) (first second : Text) (parts : List Text) :
    joinWith mark (first :: second :: parts) =
      first ++ mark :: joinWith mark (second :: parts) := by
  simp [joinWith, List.intercalate]

/-- The first of some parts is what stands before the first mark. -/
theorem cutAt_joinWith (unmarked : mark ∉ part) (parts : List Text) :
    cutAt mark (joinWith mark (part :: parts)) = (part, joinWith mark parts) := by
  cases parts with
  | nil => simpa [joinWith, List.intercalate] using cutAt_of_not_mem unmarked
  | cons second parts => rw [joinWith_cons_cons, cutAt_append unmarked]

/-- The parts are what stands between the marks. -/
theorem splitAt_joinWith (parts : List Text)
    (unmarked : ∀ other ∈ part :: parts, mark ∉ other) :
    splitAt mark (joinWith mark (part :: parts)) = part :: parts := by
  induction parts generalizing part with
  | nil =>
    simpa [joinWith, List.intercalate] using splitAt_of_not_mem (unmarked part (by simp))
  | cons second parts ih =>
    rw [joinWith_cons_cons, splitAt_append (unmarked part (List.mem_cons_self ..)),
      ih fun other member => unmarked other (List.mem_cons_of_mem _ member)]

theorem mem_joinWith {c : CodePoint} {parts : List Text} (member : c ∈ joinWith mark parts) :
    c = mark ∨ ∃ part ∈ parts, c ∈ part := by
  induction parts with
  | nil => simp [joinWith, List.intercalate] at member
  | cons first parts ih =>
    cases parts with
    | nil =>
      rw [joinWith, List.intercalate] at member
      exact .inr ⟨first, List.mem_cons_self .., by simpa using member⟩
    | cons second parts =>
      rw [joinWith_cons_cons, List.mem_append, List.mem_cons] at member
      rcases member with inFirst | isMark | inRest
      · exact .inr ⟨first, List.mem_cons_self .., inFirst⟩
      · exact .inl isMark
      · rcases ih inRest with isMark | ⟨part, isPart, member⟩
        · exact .inl isMark
        · exact .inr ⟨part, List.mem_cons_of_mem _ isPart, member⟩

end Splitting

section Trimming

/-- Characters at the front of a text that are not blank stay when it is trimmed. -/
theorem exists_trim_append {front : Text} (visible : ∀ c ∈ front, isBlank c = false)
    (rest : Text) (nonempty : front ≠ []) : ∃ kept, trim (front ++ rest) = front ++ kept := by
  have left : trimLeft (front ++ rest) = front ++ rest := by
    cases front with
    | nil => exact absurd rfl nonempty
    | cons c front =>
      rw [List.cons_append, trimLeft, List.dropWhile_cons_of_neg]
      rw [visible c (List.mem_cons_self ..)]
      exact Bool.false_ne_true
  have right : front.reverse.dropWhile isBlank = front.reverse := by
    rw [List.dropWhile_eq_self_iff]
    intro bound
    rw [visible _ (List.mem_reverse.mp (List.getElem_mem _))]
    exact Bool.false_ne_true
  rw [trim, left, trimRight, trimLeft, List.reverse_append, List.dropWhile_append, right]
  split
  · exact ⟨[], by simp⟩
  · exact ⟨_, by rw [List.reverse_append, List.reverse_reverse]⟩

end Trimming

end Observance.Text

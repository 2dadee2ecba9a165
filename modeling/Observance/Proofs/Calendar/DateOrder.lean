import Mathlib.Data.String.Basic
import Observance.Proofs.Calendar.Months

/-! # The order of written dates

Years are written in four digits, months and days in two. So the texts of dates are compared part by
part, each part as the number that it denotes, and texts are in order exactly if their dates are.
-/

namespace Observance

open Text

namespace Text

/-- Equally many characters that differ decide which of two texts comes first. -/
theorem append_lt_append_iff {first second later other : Text}
    (length : first.length = second.length) :
    first ++ later < second ++ other ↔ first < second ∨ first = second ∧ later < other := by
  induction first generalizing second with
  | nil =>
    cases List.length_eq_zero_iff.mp length.symm
    simp
  | cons c first ih =>
    cases second with
    | nil => simp at length
    | cons c' second =>
      rw [List.cons_append, List.cons_append, List.cons_lt_cons_iff, List.cons_lt_cons_iff,
        ih (Nat.succ_inj.mp length), List.cons.injEq]
      tauto

variable {width m n : Nat}

/-- Numbers are in the order that they are written in, if they are written in one width. -/
theorem paddedDecimal_lt_iff (positive : 0 < width) (bound : m < 10 ^ width)
    (bound' : n < 10 ^ width) : paddedDecimal width m < paddedDecimal width n ↔ m < n := by
  have length := (length_paddedDecimal positive bound).trans
    (length_paddedDecimal positive bound').symm
  rw [digits_lt_iff length (fun _ => isAsciiDigit_of_mem_paddedDecimal)
    (fun _ => isAsciiDigit_of_mem_paddedDecimal), digitsValue_paddedDecimal,
    digitsValue_paddedDecimal]

theorem paddedDecimal_inj : paddedDecimal width m = paddedDecimal width n ↔ m = n := by
  refine ⟨fun same => ?_, congrArg _⟩
  rw [← digitsValue_paddedDecimal width m, same, digitsValue_paddedDecimal]

/-- A number that has enough digits is not padded. -/
theorem paddedDecimal_of_le (positive : 0 < width) (large : 10 ^ width ≤ n) :
    paddedDecimal (width + 1) n = numeral 10 n := by
  have length : ¬ (numeral 10 n).length ≤ width := by
    rw [numeral, length_ofChars, Nat.length_toDigits_le_iff (by decide) positive]
    omega
  rw [paddedDecimal, show width + 1 - (numeral 10 n).length = 0 by omega]
  rfl

/-- A number that is written in one width decides before what is written after it. -/
theorem paddedDecimal_append_lt_iff {later other : Text} (positive : 0 < width)
    (bound : m < 10 ^ width) (bound' : n < 10 ^ width) :
    paddedDecimal width m ++ later < paddedDecimal width n ++ other ↔
      m < n ∨ m = n ∧ later < other := by
  have length := (length_paddedDecimal positive bound).trans
    (length_paddedDecimal positive bound').symm
  rw [append_lt_append_iff length, paddedDecimal_lt_iff positive bound bound', paddedDecimal_inj]

end Text

namespace Date

variable {first second : Date}

/-- Dates are ordered by year, then by month, then by day. -/
theorem lt_iff_parts : first < second ↔ first.year < second.year ∨ first.year = second.year ∧
    (first.month < second.month ∨ first.month = second.month ∧ first.day < second.day) := by
  have notAfter : first < second ↔ ¬ second ≤ first := Nat.not_le.symm
  have firstMonth := first.valid.2.1
  have secondMonth := second.valid.2.1
  rw [notAfter, le_iff_monthIndex, monthIndex, monthIndex]
  omega

/-- The texts of dates are in the order of the dates. -/
theorem text_lt_iff : first.text < second.text ↔ first < second := by
  obtain ⟨firstYear, firstMonth, firstDay⟩ := first.parts_lt
  obtain ⟨secondYear, secondMonth, secondDay⟩ := second.parts_lt
  have hyphen {later other : Text} :
      CodePoint.char '-' :: later < .char '-' :: other ↔ later < other := by
    simp
  rw [text, text, List.append_assoc, List.append_assoc, List.cons_append, List.cons_append,
    paddedDecimal_append_lt_iff (by decide) firstYear secondYear, hyphen,
    paddedDecimal_append_lt_iff (by decide) firstMonth secondMonth, hyphen,
    paddedDecimal_lt_iff (by decide) firstDay secondDay, lt_iff_parts]

end Date

end Observance

import Mathlib.Data.List.TakeDrop
import Observance.Json.Reader
import Observance.Json.Writer
import Observance.Proofs.Text.Digits

/-! # Integers that are read back

An integer that was written is read back if nothing that follows it could go on with it, and if it
does not have more digits than are converted.
-/

namespace Observance.Json

open Observance.Text

/-- Whether a character can go on with an integer that was read so far. -/
def continuesNumber (c : CodePoint) : Bool := isAsciiDigit c || c == '.' || c == 'e' || c == 'E'

def endsNumber : Text → Bool
  | [] => true
  | c :: _ => !continuesNumber c

def endsDigits : Text → Bool
  | [] => true
  | c :: _ => !isAsciiDigit c

theorem endsDigits_of_endsNumber {rest : Text} (ends : endsNumber rest = true) :
    endsDigits rest = true := by
  cases rest with
  | nil => rfl
  | cons c rest =>
    simp only [endsNumber, continuesNumber, Bool.not_eq_true', Bool.or_eq_false_iff] at ends
    simp [endsDigits, ends.1.1.1]

/-- The digits of a number begin with a zero only if it is zero. -/
theorem numeral_eq_cons {n : Nat} (positive : 0 < n) :
    ∃ d rest, numeral 10 n = d :: rest ∧ isAsciiDigit d = true ∧ d ≠ '0' := by
  induction n using Nat.strongRecOn with
  | ind n ih =>
    rw [numeral_eq_if (by decide)]
    split
    next small =>
      have leading : ∀ d < 10, 0 < d → CodePoint.char (Nat.digitChar d) ≠ '0' := by decide
      exact ⟨_, [], rfl, isAsciiDigit_digitChar n small, leading n small positive⟩
    next large =>
      obtain ⟨d, rest, digits, ascii, nonzero⟩ := ih (n / 10) (by omega) (by omega)
      exact ⟨d, rest ++ [_], by rw [digits]; rfl, ascii, nonzero⟩

theorem spanDigits_append {digits rest : Text} (ascii : ∀ c ∈ digits, isAsciiDigit c = true)
    (ends : endsDigits rest = true) : spanDigits (digits ++ rest) = (digits, rest) := by
  have stops : rest.takeWhile isAsciiDigit = [] ∧ rest.dropWhile isAsciiDigit = rest := by
    cases rest with
    | nil => exact ⟨rfl, rfl⟩
    | cons c rest =>
      have notDigit : isAsciiDigit c = false := by simpa [endsDigits] using ends
      simp [notDigit]
  rw [spanDigits, List.span_eq_takeWhile_dropWhile, List.takeWhile_append_of_pos ascii,
    List.dropWhile_append_of_pos ascii, stops.1, stops.2, List.append_nil]

/-- Digits that do not begin with a zero are those before the point. -/
theorem splitWhole_append {digits rest : Text} (ascii : ∀ c ∈ digits, isAsciiDigit c = true)
    (leading : digits.head? ≠ some (.char '0')) (ends : endsDigits rest = true) :
    splitWhole (digits ++ rest) = (digits, rest) := by
  rw [splitWhole, spanDigits_append ascii ends]
  intro after same
  cases digits with
  | nil =>
    rw [List.nil_append] at same
    subst same
    exact (Bool.false_ne_true ends).elim
  | cons d digits =>
    rw [List.cons_append] at same
    exact leading (congrArg some (List.cons.inj same).1)

theorem splitWhole_numeral {n : Nat} {rest : Text} (ends : endsNumber rest = true) :
    splitWhole (numeral 10 n ++ rest) = (numeral 10 n, rest) := by
  rcases Nat.eq_zero_or_pos n with rfl | positive
  · rfl
  · obtain ⟨d, digits, written, _, nonzero⟩ := numeral_eq_cons positive
    refine splitWhole_append (fun c => isAsciiDigit_of_mem_numeral) ?_
      (endsDigits_of_endsNumber ends)
    rw [written]
    exact fun zero => nonzero (Option.some.inj zero)

theorem splitFraction_of_ends {rest : Text} (ends : endsNumber rest = true) :
    splitFraction rest = (none, rest) := by
  rw [splitFraction]
  intro after same
  subst same
  simp [endsNumber, continuesNumber] at ends

theorem splitExponent_of_ends {rest : Text} (ends : endsNumber rest = true) :
    splitExponent rest = (none, rest) := by
  cases rest with
  | nil => rfl
  | cons mark rest =>
    simp only [endsNumber, continuesNumber, Bool.not_eq_true', Bool.or_eq_false_iff] at ends
    simp [splitExponent, ends.1.2, ends.2]

section Sign

/-- A minus in front of the digits of a negative number. -/
def signed (negative : Bool) (digits : Text) : Text :=
  if negative then .char '-' :: digits else digits

theorem signed_append (negative : Bool) (digits rest : Text) :
    signed negative digits ++ rest = signed negative (digits ++ rest) := by
  cases negative <;> rfl

theorem writeInteger_eq_signed (value : Int) :
    writeInteger value = signed (decide (value < 0)) (numeral 10 value.natAbs) := by
  cases value with
  | ofNat size => simp [writeInteger, signed]
  | negSucc size => simp [writeInteger, signed, Int.negSucc_lt_zero]

theorem splitMinus_signed (negative : Bool) {d : CodePoint} (digit : isAsciiDigit d = true)
    (rest : Text) : splitMinus (signed negative (d :: rest)) = (negative, d :: rest) := by
  cases negative with
  | true => rfl
  | false =>
    rw [signed, if_neg Bool.false_ne_true, splitMinus]
    intro after same
    cases same
    exact absurd digit (by decide)

private theorem words_front : ∀ d < 10, ∀ word ∈ words, 2 ≤ word.1.length ∧
    word.1[0]? ≠ some (.char (Nat.digitChar d)) ∧
      word.1[1]? ≠ some (.char (Nat.digitChar d)) := by decide

/-- No word begins as a number does: with a digit, perhaps after a minus. -/
theorem words_find?_signed (negative : Bool) {d : CodePoint} (digit : isAsciiDigit d = true)
    (rest : Text) : words.find? (·.1.isPrefixOf (signed negative (d :: rest))) = none := by
  obtain ⟨size, bound, rfl⟩ := (isAsciiDigit_iff d).mp digit
  rw [List.find?_eq_none]
  intro word isWord found
  obtain ⟨tail, same⟩ := List.isPrefixOf_iff_prefix.mp found
  obtain ⟨long, notFirst, notSecond⟩ := words_front size bound word isWord
  have first := congrArg (·[0]?) same
  have second := congrArg (·[1]?) same
  simp only [List.getElem?_append_left (show 0 < word.1.length by omega)] at first
  simp only [List.getElem?_append_left (show 1 < word.1.length by omega)] at second
  cases negative with
  | false => exact notFirst first
  | true => exact notSecond second

end Sign

theorem isAsciiDigit_of_mem_zero {c : CodePoint} (member : c ∈ ([.char '0'] : Text)) :
    isAsciiDigit c = true := by
  rw [List.mem_singleton.mp member]
  rfl

theorem numeral_eq_digit_cons (n : Nat) :
    ∃ d digits, numeral 10 n = d :: digits ∧ isAsciiDigit d = true := by
  obtain ⟨d, digits, written⟩ :=
    List.exists_cons_of_ne_nil (numeral_ne_nil 10 n)
  refine ⟨d, digits, written, isAsciiDigit_of_mem_numeral (n := n) ?_⟩
  rw [written]
  exact List.mem_cons_self ..

/-- An integer that was written is read back. -/
theorem readPlain_writeInteger {value : Int} {rest : Text}
    (readable : isReadableInteger value = true) (ends : endsNumber rest = true) :
    readPlain (writeInteger value ++ rest) = .ok (.integer value, rest) := by
  have converted : digitsToNat (numeral 10 value.natAbs) = .ok value.natAbs := by
    rw [isReadableInteger, decide_eq_true_eq] at readable
    rw [digitsToNat, if_neg (by omega), digitsValue_numeral]
  have whole := splitWhole_numeral (n := value.natAbs) ends
  obtain ⟨d, digits, written, digit⟩ := numeral_eq_digit_cons value.natAbs
  rw [written] at converted whole
  rw [writeInteger_eq_signed, written, signed_append, readPlain, List.cons_append,
    words_find?_signed _ digit, readNumber, splitMinus_signed _ digit]
  simp only [← List.cons_append, whole, splitFraction_of_ends ends, splitExponent_of_ends ends,
    converted, List.isEmpty_cons, Bool.false_eq_true, if_false, Option.isNone_none, Bool.and_self,
    if_true, decide_eq_true_eq]
  congr
  split <;> omega

end Observance.Json

import Mathlib.Data.List.DropRight
import Observance.Proofs.Binary64
import Observance.Proofs.Json.Number

/-! # Numbers with a fraction or an exponent

Every number of the format is written as a word or as a number with a fraction or an exponent, and
that is read as a number again, whatever it stands before. So a number in a document never keeps the
rest of the document from being read back.
-/

namespace Observance

open Text

namespace Json

/-- A fraction as it is written; there is none without decimals. -/
def fractionText (decimals : Text) : Text :=
  if decimals.isEmpty then [] else .char '.' :: decimals

/-- An exponent as it is written; there is none without digits. -/
def exponentText (isSmall : Bool) (power : Text) : Text :=
  if power.isEmpty then [] else .char 'e' :: (if isSmall then .char '-' else .char '+') :: power

/-- The digits of a number that is written with a fraction or an exponent. -/
structure RealParts where
  whole : Text
  decimals : Text
  isSmall : Bool
  power : Text
  wholeDigits : ∀ c ∈ whole, isAsciiDigit c = true
  decimalDigits : ∀ c ∈ decimals, isAsciiDigit c = true
  powerDigits : ∀ c ∈ power, isAsciiDigit c = true
  leading : whole = ['0'] ∨ whole ≠ [] ∧ whole.head? ≠ some (.char '0')
  isReal : decimals ≠ [] ∨ power ≠ []

namespace RealParts

/-- The text of a number without its sign. -/
def text (parts : RealParts) : Text :=
  parts.whole ++ fractionText parts.decimals ++ exponentText parts.isSmall parts.power

def fraction? (parts : RealParts) : Option Text :=
  if parts.decimals.isEmpty then none else some parts.decimals

def exponent? (parts : RealParts) : Option Int :=
  if parts.power.isEmpty then none
  else some (if parts.isSmall then -(digitsValue parts.power : Int) else digitsValue parts.power)

def value (negative : Bool) (parts : RealParts) : Binary64 :=
  .ofDecimal negative (digitsValue (parts.whole ++ parts.fraction?.getD []))
    (parts.exponent?.getD 0 - (parts.fraction?.getD []).length)

theorem isReal_eq (parts : RealParts) :
    (parts.fraction?.isNone && parts.exponent?.isNone) = false := by
  rcases parts.isReal with decimals | power
  · simp [fraction?, decimals]
  · simp [exponent?, power]

end RealParts

section Reading

variable {rest : Text}

theorem splitExponent_parts (parts : RealParts) (ends : endsNumber rest = true) :
    splitExponent (exponentText parts.isSmall parts.power ++ rest) = (parts.exponent?, rest) := by
  have digits := spanDigits_append parts.powerDigits (endsDigits_of_endsNumber ends)
  unfold RealParts.exponent?
  cases power : parts.power with
  | nil => exact splitExponent_of_ends ends
  | cons d power =>
    rw [power, List.cons_append] at digits
    cases parts.isSmall <;> simp [exponentText, splitExponent, splitSign, digits]

theorem splitFraction_parts (parts : RealParts) (ends : endsDigits rest = true)
    (noPoint : rest.head? ≠ some (.char '.')) :
    splitFraction (fractionText parts.decimals ++ rest) = (parts.fraction?, rest) := by
  have digits := spanDigits_append parts.decimalDigits ends
  unfold RealParts.fraction?
  cases decimals : parts.decimals with
  | nil =>
    rw [fractionText, List.isEmpty_nil, if_pos rfl, List.nil_append, splitFraction]
    · rfl
    · rintro after rfl
      exact noPoint rfl
  | cons d decimals =>
    rw [decimals, List.cons_append] at digits
    simp [fractionText, splitFraction, digits]

theorem splitWhole_parts (parts : RealParts) (ends : endsDigits rest = true) :
    splitWhole (parts.whole ++ rest) = (parts.whole, rest) := by
  rcases parts.leading with zero | ⟨_, leading⟩
  · rw [zero]
    rfl
  · exact splitWhole_append parts.wholeDigits leading ends

/-- Neither a digit nor a point follows the decimals. -/
theorem exponentText_stops (isSmall : Bool) (power : Text) (ends : endsNumber rest = true) :
    endsDigits (exponentText isSmall power ++ rest) = true ∧
      (exponentText isSmall power ++ rest).head? ≠ some (.char '.') := by
  cases power with
  | nil =>
    refine ⟨endsDigits_of_endsNumber ends, ?_⟩
    cases rest with
    | nil => nofun
    | cons c rest =>
      rintro ⟨⟩
      exact (Bool.false_ne_true ends).elim
  | cons d power => exact ⟨rfl, nofun⟩

theorem fractionText_stops (decimals : Text) (ends : endsDigits rest = true) :
    endsDigits (fractionText decimals ++ rest) = true := by
  cases decimals with
  | nil => exact ends
  | cons d decimals => rfl

/-- A number begins with a digit. -/
theorem RealParts.whole_eq_cons (parts : RealParts) :
    ∃ d digits, parts.whole = d :: digits ∧ isAsciiDigit d = true := by
  obtain ⟨d, digits, whole⟩ : ∃ d digits, parts.whole = d :: digits := by
    rcases parts.leading with zero | ⟨filled, _⟩
    · exact ⟨_, _, zero⟩
    · exact List.exists_cons_of_ne_nil filled
  exact ⟨d, digits, whole, parts.wholeDigits d (by rw [whole]; exact List.mem_cons_self ..)⟩

theorem RealParts.text_eq_cons (parts : RealParts) :
    ∃ d digits, parts.text = d :: digits ∧ isAsciiDigit d = true := by
  obtain ⟨d, digits, whole, digit⟩ := parts.whole_eq_cons
  exact ⟨d, _, by rw [text, whole, List.cons_append, List.cons_append], digit⟩

/-- A number that is written with a fraction or an exponent is read. -/
theorem readPlain_parts (negative : Bool) (parts : RealParts) (ends : endsNumber rest = true) :
    readPlain (signed negative parts.text ++ rest) =
      .ok (.real (parts.value negative), rest) := by
  obtain ⟨stops, noPoint⟩ := exponentText_stops parts.isSmall parts.power ends
  have whole := splitWhole_parts parts (fractionText_stops parts.decimals stops)
  obtain ⟨d, digits, front, digit⟩ := parts.whole_eq_cons
  rw [front] at whole
  rw [signed_append, RealParts.text, List.append_assoc, List.append_assoc, front, List.cons_append,
    readPlain, words_find?_signed _ digit, readNumber, splitMinus_signed _ digit]
  simp only [← List.cons_append, whole, splitFraction_parts parts stops noPoint,
    splitExponent_parts parts ends, parts.isReal_eq]
  rw [RealParts.value, front]
  rfl

end Reading

section Writing

open Binary64

/-- Whether digits are some, and begin with one that is not zero. -/
structure IsLeading (digits : Text) : Prop where
  ascii : ∀ c ∈ digits, isAsciiDigit c = true
  filled : digits ≠ []
  nonzero : digits.head? ≠ some (.char '0')

/-- The digits of a positive number without the zeros at its end. -/
theorem isLeading_trimmed {n : Nat} (positive : 0 < n) :
    IsLeading ((numeral 10 n).reverse.dropWhile (· == .char '0')).reverse := by
  obtain ⟨d, digits, written, ascii, nonzero⟩ := numeral_eq_cons positive
  change IsLeading ((numeral 10 n).rdropWhile (· == .char '0'))
  have front := List.rdropWhile_prefix (· == .char '0') (l := numeral 10 n)
  have filled : (numeral 10 n).rdropWhile (· == .char '0') ≠ [] := by
    intro empty
    have zeros := List.rdropWhile_eq_nil_iff.mp empty d
      (by rw [written]; exact List.mem_cons_self ..)
    exact nonzero (eq_of_beq zeros)
  refine ⟨fun c member => isAsciiDigit_of_mem_numeral (front.subset member), filled, ?_⟩
  obtain ⟨first, rest, kept⟩ := List.exists_cons_of_ne_nil filled
  rw [written] at front kept
  rw [kept] at front
  rw [written, kept, (List.cons_prefix_cons.mp front).1]
  exact fun zero => nonzero (Option.some.inj zero)

theorem isLeading_shortest {significand : Nat} {exponent : Int}
    (size : IsSize significand exponent) (positive : 0 < significand) :
    IsLeading (shortest significand exponent).1 := by
  obtain ⟨digits, positive, written⟩ := exists_shortest size positive
  rw [written]
  exact isLeading_trimmed positive

variable {digits : Text}

theorem isAsciiDigit_zeros {count : Nat} {c : CodePoint}
    (member : c ∈ List.replicate count (.char '0')) :
    isAsciiDigit c = true := by
  rw [List.eq_of_mem_replicate member]
  rfl

theorem IsLeading.take (leading : IsLeading digits) {count : Nat} (some : 0 < count) :
    IsLeading (digits.take count) where
  ascii c member := leading.ascii c (List.mem_of_mem_take member)
  filled empty := by
    rcases List.take_eq_nil_iff.mp empty with none | empty
    · omega
    · exact leading.filled empty
  nonzero := by
    rw [List.head?_take, if_neg (by omega)]
    exact leading.nonzero

/-- A number that is written with an exponent. -/
def scientificParts (leading : IsLeading digits) (power : Int) : RealParts where
  whole := digits.take 1
  decimals := digits.drop 1
  isSmall := power < 0
  power :=
    let magnitude := numeral 10 power.natAbs
    if magnitude.length < 2 then .char '0' :: magnitude else magnitude
  wholeDigits := (leading.take Nat.one_pos).ascii
  decimalDigits c member := leading.ascii c (List.mem_of_mem_drop member)
  powerDigits c member := by
    dsimp only at member
    split at member
    · rcases List.mem_cons.mp member with rfl | member
      · rfl
      · exact isAsciiDigit_of_mem_numeral member
    · exact isAsciiDigit_of_mem_numeral member
  leading := .inr ⟨(leading.take Nat.one_pos).filled, (leading.take Nat.one_pos).nonzero⟩
  isReal := by
    dsimp only
    split
    · exact .inr (List.cons_ne_nil _ _)
    · exact .inr (numeral_ne_nil _ _)

/-- A number below one that is written in full. -/
def smallParts (leading : IsLeading digits) (zeros : Nat) : RealParts where
  whole := ['0']
  decimals := List.replicate zeros (.char '0') ++ digits
  isSmall := false
  power := []
  wholeDigits _ := isAsciiDigit_of_mem_zero
  decimalDigits c member :=
    (List.mem_append.mp member).elim isAsciiDigit_zeros (leading.ascii c)
  powerDigits := nofun
  leading := .inl rfl
  isReal := .inl fun empty => leading.filled (List.append_eq_nil_iff.mp empty).2

/-- A number of at least one that is written in full. -/
def largeParts (leading : IsLeading digits) {point : Nat} (positive : 0 < point) : RealParts where
  whole := digits.take point ++ List.replicate (point - (digits.take point).length) (.char '0')
  decimals := if (digits.drop point).isEmpty then ['0'] else digits.drop point
  isSmall := false
  power := []
  wholeDigits c member :=
    (List.mem_append.mp member).elim ((leading.take positive).ascii c) isAsciiDigit_zeros
  decimalDigits c member := by
    split at member
    · exact isAsciiDigit_of_mem_zero member
    · exact leading.ascii c (List.mem_of_mem_drop member)
  powerDigits := nofun
  leading := by
    obtain ⟨_, filled, nonzero⟩ := leading.take positive
    refine .inr ⟨fun empty => filled (List.append_eq_nil_iff.mp empty).1, ?_⟩
    rwa [List.head?_append_of_ne_nil _ filled]
  isReal := by
    split
    · exact .inl (List.cons_ne_nil _ _)
    next some => exact .inl fun empty => some (by rw [empty]; rfl)

/-- Digits are laid out as a number with a fraction or an exponent. -/
theorem exists_parts_layOut (leading : IsLeading digits) (layout : RealLayout) (point : Int) :
    ∃ parts : RealParts, parts.text = layOut layout digits point := by
  unfold layOut
  split
  · refine ⟨scientificParts leading (point - 1), ?_⟩
    have filled : (scientificParts leading (point - 1)).power.isEmpty = false := by
      simp only [scientificParts]
      split
      · rfl
      · simp
    rw [RealParts.text, exponentText, filled]
    simp [scientificParts, fractionText]
  next =>
    split
    · refine ⟨smallParts leading (-point).toNat, ?_⟩
      simp [RealParts.text, smallParts, fractionText, exponentText, leading.filled]
    next large =>
      refine ⟨largeParts leading (show 0 < point.toNat by omega), ?_⟩
      simp only [RealParts.text, largeParts, fractionText, exponentText]
      split <;> simp_all

def zeroParts : RealParts where
  whole := ['0']
  decimals := ['0']
  isSmall := false
  power := []
  wholeDigits _ := isAsciiDigit_of_mem_zero
  decimalDigits _ := isAsciiDigit_of_mem_zero
  powerDigits := nofun
  leading := .inl rfl
  isReal := .inl (by decide)

/-- A finite number is written with a fraction or an exponent. -/
theorem exists_parts_text {negative : Bool} {significand : Nat} {exponent : Int}
    (size : IsSize significand exponent) (infinity noNumber : Text) :
    ∃ parts : RealParts, (finite negative significand exponent).text infinity noNumber =
      signed negative parts.text := by
  unfold Binary64.text
  rcases Nat.eq_zero_or_pos significand with rfl | positive
  · exact ⟨zeroParts, rfl⟩
  · obtain ⟨parts, written⟩ := exists_parts_layOut (isLeading_shortest size positive) standardLayout
      (shortest significand exponent).2
    refine ⟨parts, ?_⟩
    rw [written]
    simp only [if_neg (Nat.ne_of_gt positive), signed]

end Writing

/-- Every number of the format is read as a number, whatever it stands before. -/
theorem exists_readPlain_text {value : Binary64} (standard : value.IsStandard) :
    ∃ number, ∀ rest, endsNumber rest = true →
      readPlain (value.text "Infinity" "NaN" ++ rest) = .ok (.real number, rest) := by
  cases value with
  | nan => exact ⟨.nan, fun rest _ => rfl⟩
  | infinite negative =>
    cases negative with
    | false => exact ⟨.infinite false, fun rest _ => rfl⟩
    | true => exact ⟨.infinite true, fun rest _ => rfl⟩
  | finite negative significand exponent =>
    obtain ⟨parts, written⟩ := exists_parts_text standard "Infinity" "NaN"
    refine ⟨parts.value negative, fun rest ends => ?_⟩
    rw [written]
    exact readPlain_parts negative parts ends

/-- The number that the text of a number is read as. -/
def rereadReal (value : Binary64) : Binary64 :=
  match readPlain (value.text "Infinity" "NaN") with
  | .ok (.real number, _) => number
  | _ => value

theorem readPlain_text {value : Binary64} {rest : Text} (standard : value.IsStandard)
    (ends : endsNumber rest = true) :
    readPlain (value.text "Infinity" "NaN" ++ rest) =
      .ok (.real (rereadReal value), rest) := by
  obtain ⟨number, read⟩ := exists_readPlain_text standard
  have alone := read [] rfl
  rw [List.append_nil] at alone
  rw [read rest ends, rereadReal, alone]

end Json

end Observance

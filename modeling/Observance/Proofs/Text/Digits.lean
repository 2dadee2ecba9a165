import Mathlib.Algebra.Ring.Nat
import Observance.Proofs.Text.CodePoint
import Observance.Text.IntegerText

/-! # Digits that are read back

A number written in digits is had back from them. The laws are about decimal digits of ASCII, which
dates and documents are written in, and about the hexadecimal digits of code escapes.
-/

namespace Observance.Text

/-- The digits of ASCII are those that numbers below ten are written with. -/
theorem isAsciiDigit_iff (c : CodePoint) : isAsciiDigit c = true ↔
    ∃ d < 10, c = Nat.digitChar d := by
  constructor
  · intro digit
    simp only [isAsciiDigit, Bool.and_eq_true, decide_eq_true_eq] at digit
    have low : 48 ≤ c.toNat := digit.1
    have high : c.toNat ≤ 57 := digit.2
    refine ⟨c.toNat - 48, by omega, ?_⟩
    apply CodePoint.toNat_inj.mp
    have table : ∀ n < 10, (Nat.digitChar n).toNat = n + 48 := by decide
    rw [CodePoint.toNat_char, table _ (by omega)]
    omega
  · rintro ⟨d, bound, rfl⟩
    revert d
    decide

theorem digitValue?_digitChar : ∀ d < 10, digitValue? (Nat.digitChar d) = some d := by decide

theorem hexValue?_digitChar : ∀ d < 16, hexValue? (Nat.digitChar d) = some d := by decide

theorem isAsciiDigit_digitChar : ∀ d < 10, isAsciiDigit (Nat.digitChar d) = true := by decide

theorem isDigit_of_isAsciiDigit {c : CodePoint} (digit : isAsciiDigit c = true) :
    isDigit c = true := by
  obtain ⟨d, bound, rfl⟩ := (isAsciiDigit_iff c).mp digit
  rw [isDigit, digitValue?_digitChar d bound]
  rfl

theorem numeral_eq_if {base : Nat} (large : 1 < base) (n : Nat) :
    numeral base n =
      if n < base then [.char (Nat.digitChar n)]
      else numeral base (n / base) ++ [.char (Nat.digitChar (n % base))] := by
  simp only [numeral]
  rw [Nat.toDigits_eq_if large]
  split <;> simp

@[simp] theorem numeral_ne_nil (base n : Nat) : numeral base n ≠ [] := by
  simp [numeral, ofChars, Nat.toDigits_ne_nil]

theorem isAsciiDigit_of_mem_numeral {c : CodePoint} {n : Nat} (member : c ∈ numeral 10 n) :
    isAsciiDigit c = true := by
  induction n using Nat.strongRecOn with
  | ind n ih =>
    rw [numeral_eq_if (by decide)] at member
    split at member
    next small =>
      rw [List.mem_singleton.mp member]
      exact isAsciiDigit_digitChar n small
    next large =>
      rcases List.mem_append.mp member with front | last
      · exact ih (n / 10) (by omega) front
      · rw [List.mem_singleton.mp last]
        exact isAsciiDigit_digitChar (n % 10) (by omega)

private theorem foldl_digits (digits : Text) (start : Nat) :
    digits.foldl (fun value c => 10 * value + (digitValue? c).getD 0) start =
      start * 10 ^ digits.length + digitsValue digits := by
  induction digits generalizing start with
  | nil => simp [digitsValue]
  | cons c rest ih =>
    simp only [digitsValue, List.foldl_cons, List.length_cons]
    rw [ih, ih (10 * 0 + _), Nat.pow_succ]
    generalize 10 ^ rest.length = scale
    rw [Nat.mul_zero, Nat.zero_add, Nat.add_mul, Nat.mul_comm scale, ← Nat.mul_assoc,
      Nat.mul_comm start, Nat.add_assoc]

theorem digitsValue_cons (c : CodePoint) (digits : Text) :
    digitsValue (c :: digits) =
      (digitValue? c).getD 0 * 10 ^ digits.length + digitsValue digits := by
  simpa [digitsValue] using foldl_digits digits ((digitValue? c).getD 0)

theorem digitsValue_append (front back : Text) :
    digitsValue (front ++ back) = digitsValue front * 10 ^ back.length + digitsValue back := by
  rw [digitsValue, List.foldl_append, foldl_digits]
  rfl

/-- The decimal digits of a number denote it. -/
theorem digitsValue_numeral (n : Nat) : digitsValue (numeral 10 n) = n := by
  induction n using Nat.strongRecOn with
  | ind n ih =>
    rw [numeral_eq_if (by decide)]
    split
    next small => simp [digitsValue, digitValue?_digitChar n small]
    next large =>
      rw [digitsValue_append, ih (n / 10) (by omega)]
      simp [digitsValue, digitValue?_digitChar (n % 10) (by omega)]
      omega

theorem digitsValue_zeros (count : Nat) : digitsValue (List.replicate count (.char '0')) = 0 := by
  induction count with
  | zero => rfl
  | succ count ih =>
    have zero : digitValue? '0' = some 0 := by decide
    rw [List.replicate_succ, digitsValue_cons, ih, zero]
    simp

/-- Padding does not change what digits denote. -/
theorem digitsValue_paddedDecimal (width n : Nat) : digitsValue (paddedDecimal width n) = n := by
  simp only [paddedDecimal, digitsValue_append, digitsValue_zeros, digitsValue_numeral]
  omega

theorem length_numeral_le {width n : Nat} (positive : 0 < width) (bound : n < 10 ^ width) :
    (numeral 10 n).length ≤ width := by
  rw [numeral, length_ofChars]
  exact (Nat.length_toDigits_le_iff (by decide) positive).mpr bound

theorem length_paddedDecimal {width n : Nat} (positive : 0 < width) (bound : n < 10 ^ width) :
    (paddedDecimal width n).length = width := by
  have := length_numeral_le positive bound
  simp only [paddedDecimal, List.length_append, List.length_replicate]
  omega

theorem isAsciiDigit_of_mem_paddedDecimal {c : CodePoint} {width n : Nat}
    (member : c ∈ paddedDecimal width n) : isAsciiDigit c = true := by
  rcases List.mem_append.mp member with zero | digit
  · rw [List.eq_of_mem_replicate zero]
    rfl
  · exact isAsciiDigit_of_mem_numeral digit

theorem digitsValue_lt {digits : Text} (ascii : ∀ c ∈ digits, isAsciiDigit c = true) :
    digitsValue digits < 10 ^ digits.length := by
  induction digits with
  | nil => simp [digitsValue]
  | cons c rest ih =>
    obtain ⟨d, bound, rfl⟩ := (isAsciiDigit_iff c).mp (ascii c (List.mem_cons_self ..))
    have below := ih fun other member => ascii other (List.mem_cons_of_mem _ member)
    rw [digitsValue_cons, digitValue?_digitChar d bound, List.length_cons, Nat.pow_succ]
    have : d * 10 ^ rest.length ≤ 9 * 10 ^ rest.length := Nat.mul_le_mul_right _ (by omega)
    simp only [Option.getD_some]
    omega

/-- Of two numbers of leading digits and remaining ones, the leading ones decide which is less. -/
private theorem scaled_lt_iff {scale lead lead' rest rest' : Nat} (below : rest < scale)
    (below' : rest' < scale) :
    lead * scale + rest < lead' * scale + rest' ↔ lead < lead' ∨ lead = lead' ∧ rest < rest' := by
  rcases Nat.lt_trichotomy lead lead' with less | rfl | more
  · have := Nat.mul_le_mul_right scale (Nat.succ_le_of_lt less)
    rw [Nat.succ_mul] at this
    omega
  · omega
  · have := Nat.mul_le_mul_right scale (Nat.succ_le_of_lt more)
    rw [Nat.succ_mul] at this
    omega

/-- Equally many digits are in the order of the numbers that they denote. -/
theorem digits_lt_iff {first second : Text} (length : first.length = second.length)
    (firstAscii : ∀ c ∈ first, isAsciiDigit c = true)
    (secondAscii : ∀ c ∈ second, isAsciiDigit c = true) :
    first < second ↔ digitsValue first < digitsValue second := by
  induction first generalizing second with
  | nil =>
    cases List.length_eq_zero_iff.mp length.symm
    simp
  | cons c rest ih =>
    cases second with
    | nil => simp at length
    | cons c' rest' =>
      have lengths : rest.length = rest'.length := by simpa using length
      have restAscii := fun other member => firstAscii other (List.mem_cons_of_mem c member)
      have restAscii' := fun other member => secondAscii other (List.mem_cons_of_mem c' member)
      obtain ⟨d, bound, rfl⟩ := (isAsciiDigit_iff c).mp (firstAscii c (List.mem_cons_self ..))
      obtain ⟨d', bound', rfl⟩ := (isAsciiDigit_iff c').mp (secondAscii c' (List.mem_cons_self ..))
      have table : ∀ d < 10, ∀ d' < 10,
          (CodePoint.char (Nat.digitChar d) < Nat.digitChar d' ↔ d < d') ∧
          (CodePoint.char (Nat.digitChar d) = Nat.digitChar d' ↔ d = d') := by decide
      obtain ⟨less, same⟩ := table d bound d' bound'
      have below := digitsValue_lt restAscii
      have below' := digitsValue_lt restAscii'
      rw [← lengths] at below'
      rw [List.cons_lt_cons_iff, less, same, ih lengths restAscii restAscii', digitsValue_cons,
        digitsValue_cons, digitValue?_digitChar d bound, digitValue?_digitChar d' bound', ← lengths]
      exact (scaled_lt_iff below below').symm

/-- Equally many digits that denote the same number are the same. -/
theorem digitsValue_injective {first second : Text} (length : first.length = second.length)
    (firstAscii : ∀ c ∈ first, isAsciiDigit c = true)
    (secondAscii : ∀ c ∈ second, isAsciiDigit c = true)
    (same : digitsValue first = digitsValue second) : first = second := by
  have notLess : ¬ first < second := by
    rw [digits_lt_iff length firstAscii secondAscii, same]
    exact Nat.lt_irrefl _
  have notMore : ¬ second < first := by
    rw [digits_lt_iff length.symm secondAscii firstAscii, same]
    exact Nat.lt_irrefl _
  exact List.le_antisymm notMore notLess

/-- Digits are those that their number is written with in their width. -/
theorem paddedDecimal_digitsValue (digits : Text) (positive : 0 < digits.length)
    (ascii : ∀ c ∈ digits, isAsciiDigit c = true) :
    paddedDecimal digits.length (digitsValue digits) = digits :=
  digitsValue_injective (length_paddedDecimal positive (digitsValue_lt ascii))
    (fun _ member => isAsciiDigit_of_mem_paddedDecimal member) ascii
    (digitsValue_paddedDecimal _ _)

/-- The hexadecimal digits of a code of 16 bits. -/
theorem paddedHex_four {code : Nat} (bound : code < 0x10000) :
    paddedHex 4 code = [.char (Nat.digitChar (code / 0x1000)),
      .char (Nat.digitChar (code / 0x100 % 16)), .char (Nat.digitChar (code / 16 % 16)),
      .char (Nat.digitChar (code % 16))] := by
  have one := @numeral_eq_if 16 (by decide)
  have zero : Nat.digitChar 0 = '0' := rfl
  simp only [paddedHex]
  rw [one code]
  split
  next small =>
    simp [Nat.div_eq_of_lt (show code < 0x1000 by omega),
      Nat.div_eq_of_lt (show code < 0x100 by omega), Nat.div_eq_of_lt small,
      Nat.mod_eq_of_lt small, zero, List.replicate]
  next =>
    rw [one (code / 16)]
    split
    next small =>
      simp [Nat.div_eq_of_lt (show code < 0x1000 by omega),
        Nat.div_eq_of_lt (show code < 0x100 by omega), Nat.mod_eq_of_lt small, zero,
        List.replicate]
    next =>
      rw [one (code / 16 / 16)]
      split
      next small =>
        rw [Nat.div_div_eq_div_mul] at small
        simp [Nat.div_eq_of_lt (show code < 0x1000 by omega), Nat.div_div_eq_div_mul,
          Nat.mod_eq_of_lt small, zero]
      next =>
        rw [one, if_pos (by omega)]
        simp [Nat.div_div_eq_div_mul]

end Observance.Text

import Mathlib.Data.List.Lex
import Observance.Text.Basic

/-! # Code points and their codes

A code point is told by its code, and code points are in the order of their codes. So are texts, at
the first place where they differ.
-/

namespace Observance

namespace CodePoint

/-- The codes of halves are no codes of characters. -/
theorem toNat_valid (c : Char) : c.toNat < 0xD800 ∨ 0xDFFF < c.toNat ∧ c.toNat < 0x110000 := c.valid

theorem toNat_injective : Function.Injective toNat := by
  have apart (c : Char) (index : Fin 0x800) : c.toNat ≠ 0xD800 + index := by
    have valid := toNat_valid c
    omega
  intro a b same
  cases a with
  | char a =>
    cases b with
    | char b => exact congrArg char (Char.toNat_inj.mp same)
    | half b => exact absurd same (apart a b)
  | half a =>
    cases b with
    | char b => exact absurd same.symm (apart b a)
    | half b => exact congrArg half (Fin.ext (Nat.add_left_cancel same))

theorem toNat_inj {a b : CodePoint} : a.toNat = b.toNat ↔ a = b := toNat_injective.eq_iff

theorem toNat_lt (point : CodePoint) : point.toNat < 0x110000 := by
  cases point with
  | char c =>
    have valid := toNat_valid c
    rw [toNat_char]
    omega
  | half index =>
    rw [toNat_half]
    omega

/-- Every number up to the last plane is the code of a code point. -/
theorem toNat_ofNat {code : Nat} (bound : code < 0x110000) : (ofNat code).toNat = code := by
  unfold ofNat
  split
  next within => simp only [toNat_half]; omega
  next without =>
    have valid : code.isValidChar := by unfold Nat.isValidChar; omega
    rw [toNat_char, Char.ofNat, dif_pos valid]
    rfl

@[simp] theorem ofNat_toNat (point : CodePoint) : ofNat point.toNat = point :=
  toNat_injective (toNat_ofNat point.toNat_lt)

/-- First halves have codes of their own, and no character has one of these. -/
theorem isHigh_iff {point : CodePoint} :
    point.isHigh = true ↔ 0xD800 ≤ point.toNat ∧ point.toNat ≤ 0xDBFF := by
  cases point with
  | char c =>
    have valid := toNat_valid c
    simp only [isHigh, toNat_char, Bool.false_eq_true, false_iff]
    omega
  | half index =>
    simp only [isHigh, toNat_half, decide_eq_true_eq, Fin.lt_def, Fin.isValue]
    omega

/-- Second halves have codes of their own, and no character has one of these. -/
theorem isLow_iff {point : CodePoint} :
    point.isLow = true ↔ 0xDC00 ≤ point.toNat ∧ point.toNat ≤ 0xDFFF := by
  cases point with
  | char c =>
    have valid := toNat_valid c
    simp only [isLow, toNat_char, Bool.false_eq_true, false_iff]
    omega
  | half index =>
    simp only [isLow, toNat_half, decide_eq_true_eq, Fin.le_def, Fin.isValue]
    omega

theorem isHigh_ofNat {code : Nat} : (ofNat code).isHigh = true ↔ 0xD800 ≤ code ∧ code ≤ 0xDBFF := by
  unfold ofNat
  split
  next within => simp only [isHigh, decide_eq_true_eq, Fin.lt_def]; omega
  next without => simp only [isHigh, Bool.false_eq_true, false_iff]; omega

theorem isLow_ofNat {code : Nat} : (ofNat code).isLow = true ↔ 0xDC00 ≤ code ∧ code ≤ 0xDFFF := by
  unfold ofNat
  split
  next within => simp only [isLow, decide_eq_true_eq, Fin.le_def]; omega
  next without => simp only [isLow, Bool.false_eq_true, false_iff]; omega

instance : LinearOrder CodePoint where
  le_refl _ := Nat.le_refl _
  le_trans _ _ _ := Nat.le_trans
  le_antisymm _ _ below above := toNat_injective (Nat.le_antisymm below above)
  le_total _ _ := Nat.le_total _ _
  lt_iff_le_not_ge _ _ := Nat.lt_iff_le_and_not_ge
  toDecidableLE := inferInstance

theorem le_def {a b : CodePoint} : a ≤ b ↔ a.toNat ≤ b.toNat := Iff.rfl

end CodePoint

namespace Text

/-- A text is whole if it is one of characters. -/
theorem isWhole_iff {text : Text} : text.isWhole = true ↔
    ∃ characters, text = ofChars characters := by
  constructor
  · intro whole
    induction text with
    | nil => exact ⟨[], rfl⟩
    | cons point rest ih =>
      simp only [isWhole, List.all_cons, Bool.and_eq_true] at whole
      obtain ⟨characters, rfl⟩ := ih whole.2
      cases point with
      | char c => exact ⟨c :: characters, rfl⟩
      | half index => cases whole.1
  · rintro ⟨characters, rfl⟩
    simp [isWhole, ofChars, CodePoint.char?]

/-- Whether no first half of a pair stands directly before a second half. -/
def isUnpaired : Text → Bool
  | first :: second :: rest => !(first.isHigh && second.isLow) && isUnpaired (second :: rest)
  | _ => true

theorem isUnpaired_ofChars (characters : List Char) : isUnpaired (ofChars characters) = true := by
  induction characters with
  | nil => rfl
  | cons c characters ih =>
    cases characters with
    | nil => rfl
    | cons => simpa [isUnpaired, CodePoint.isHigh] using ih

@[simp] theorem isUnpaired_ofString (literal : String) : isUnpaired (ofString literal) = true :=
  isUnpaired_ofChars _

/-- A text without halves is without pairs of them. -/
theorem isUnpaired_of_isWhole {text : Text} (whole : text.isWhole = true) :
    text.isUnpaired = true := by
  obtain ⟨characters, rfl⟩ := isWhole_iff.mp whole
  exact isUnpaired_ofChars characters

theorem isUnpaired_of_cons {first : CodePoint} {rest : Text}
    (unpaired : isUnpaired (first :: rest) = true) : rest.isUnpaired = true := by
  cases rest with
  | nil => rfl
  | cons second rest =>
    rw [isUnpaired, Bool.and_eq_true] at unpaired
    exact unpaired.2

end Text

end Observance

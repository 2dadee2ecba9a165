import Observance.Proofs.Json.RoundTrip
import Observance.Proofs.Text.Plain

/-! # Documents of ASCII characters

A document that is written in ASCII has only visible characters and spaces, because everything else
in its texts is escaped, and line feeds if its layout has more than one line. So the document is
decoded from its bytes as it was written, and one that is laid out on one line is on one line.
-/

namespace Observance.Json

open Text

section Text

theorem isVisible_digitChar : ∀ d < 16, isVisible (Nat.digitChar d) = true := by decide

theorem isVisible_of_isAsciiDigit {c : CodePoint} (digit : isAsciiDigit c = true) :
    isVisible c = true := by
  obtain ⟨d, bound, rfl⟩ := (isAsciiDigit_iff c).mp digit
  exact isVisible_digitChar d (by omega)

theorem isVisibleText_escapeUnit {code : Nat} (bound : code < 0x10000) :
    IsVisibleText (escapeUnit code) := by
  rw [escapeUnit, paddedHex_four bound]
  simp only [isVisibleText_cons, isVisible_digitChar _ (show code / 0x1000 < 16 by omega),
    isVisible_digitChar _ (show code / 0x100 % 16 < 16 by omega),
    isVisible_digitChar _ (show code / 16 % 16 < 16 by omega),
    isVisible_digitChar _ (show code % 16 < 16 by omega), isVisibleText_nil]
  decide

theorem isVisibleText_escapeCodePoint {code : Nat} (bound : code < 0x110000) :
    IsVisibleText (escapeCodePoint code) := by
  unfold escapeCodePoint
  split
  next basic => exact isVisibleText_escapeUnit basic
  next =>
    exact isVisibleText_append.mpr
      ⟨isVisibleText_escapeUnit (by omega), isVisibleText_escapeUnit (by omega)⟩

theorem isVisibleText_writeChar (c : CodePoint) : IsVisibleText (writeChar true c) := by
  unfold writeChar
  split
  -- The seven characters with an escape of one letter.
  iterate 7 decide
  next =>
    split
    next =>
      exact isVisibleText_escapeCodePoint c.toNat_lt
    next visible =>
      simp only [Bool.or_eq_true, Bool.and_eq_true, decide_eq_true_eq, not_or, true_and,
        not_lt] at visible
      simp [isVisibleText_cons, isVisibleText_nil, isVisible, visible]

theorem isVisibleText_writeText (value : Text) : IsVisibleText (writeText true value) := by
  refine isVisibleText_append.mpr
    ⟨isVisibleText_cons.mpr ⟨rfl, fun c member => ?_⟩, by decide⟩
  obtain ⟨original, _, written⟩ := List.mem_flatMap.mp member
  exact isVisibleText_writeChar original c written

end Text

section Number

theorem isVisibleText_digits {digits : Text} (ascii : ∀ c ∈ digits, isAsciiDigit c = true) :
    IsVisibleText digits := fun c member => isVisible_of_isAsciiDigit (ascii c member)

theorem isVisibleText_signed {digits : Text} (negative : Bool)
    (visible : IsVisibleText digits) : IsVisibleText (signed negative digits) := by
  cases negative with
  | false => exact visible
  | true => exact isVisibleText_cons.mpr ⟨rfl, visible⟩

theorem isVisibleText_writeInteger (value : Int) : IsVisibleText (writeInteger value) := by
  rw [writeInteger_eq_signed]
  exact isVisibleText_signed _ (isVisibleText_digits fun _ => isAsciiDigit_of_mem_numeral)

theorem RealParts.isVisibleText_text (parts : RealParts) : IsVisibleText parts.text := by
  refine isVisibleText_append.mpr ⟨isVisibleText_append.mpr
    ⟨isVisibleText_digits parts.wholeDigits, ?_⟩, ?_⟩
  · unfold fractionText
    split
    · exact isVisibleText_nil
    · exact isVisibleText_cons.mpr ⟨rfl, isVisibleText_digits parts.decimalDigits⟩
  · unfold exponentText
    split
    · exact isVisibleText_nil
    · have power := isVisibleText_digits parts.powerDigits
      cases parts.isSmall <;> exact isVisibleText_cons.mpr ⟨rfl,
        isVisibleText_cons.mpr ⟨rfl, power⟩⟩

theorem isVisibleText_text {value : Binary64} (standard : value.IsStandard) :
    IsVisibleText (value.text "Infinity" "NaN") := by
  cases value with
  | nan => decide
  | infinite negative => cases negative <;> decide
  | finite negative significand exponent =>
    obtain ⟨parts, written⟩ := exists_parts_text standard "Infinity" "NaN"
    rw [written]
    exact isVisibleText_signed negative parts.isVisibleText_text

end Number

section Value

/-- Whether a layout of ASCII characters needs no others than those allowed: visible ones, spaces,
and a line feed if it has lines. -/
structure Layout.UsesOnly (layout : Layout) (isAllowed : CodePoint → Bool) : Prop where
  ascii : layout.asciiOnly = true
  visible {c : CodePoint} : isVisible c = true → isAllowed c = true
  lineFeed : layout.indent ≠ none → isAllowed (.char '\n') = true

variable {layout : Layout} {asciiOnly : Bool} {isAllowed : CodePoint → Bool}

namespace Layout.UsesOnly

theorem text (uses : layout.UsesOnly isAllowed) {characters : Text}
    (visible : IsVisibleText characters) : ∀ c ∈ characters, isAllowed c = true :=
  fun c member => uses.visible (visible c member)

theorem lineBreak (uses : layout.UsesOnly isAllowed) (level : Nat) :
    ∀ c ∈ Json.lineBreak layout level, isAllowed c = true := by
  unfold Json.lineBreak
  split
  · exact List.forall_mem_nil _
  next lines =>
    refine List.forall_mem_cons.mpr ⟨uses.lineFeed (by simp [lines]), fun c member => ?_⟩
    rw [List.eq_of_mem_replicate member]
    exact uses.visible rfl

theorem separator (uses : layout.UsesOnly isAllowed) (level : Nat) :
    ∀ c ∈ Json.separator layout level, isAllowed c = true := by
  unfold Json.separator
  split
  · exact uses.text (by decide)
  · exact List.forall_mem_cons.mpr ⟨uses.visible rfl, uses.lineBreak level⟩

theorem writeText (uses : layout.UsesOnly isAllowed) (value : Text) :
    ∀ c ∈ Json.writeText layout.asciiOnly value, isAllowed c = true := by
  rw [uses.ascii]
  exact uses.text (isVisibleText_writeText value)

end Layout.UsesOnly

mutual

theorem forall_mem_writeValue (uses : layout.UsesOnly isAllowed) (level : Nat) {value : Json}
    (legible : IsLegible asciiOnly value) :
    ∀ c ∈ writeValue layout level value, isAllowed c = true := by
  cases value with
  | null => rw [writeValue]; exact uses.text (by decide)
  | bool value => cases value <;> rw [writeValue] <;> exact uses.text (by decide)
  | integer value => rw [writeValue]; exact uses.text (isVisibleText_writeInteger value)
  | real value => rw [writeValue]; exact uses.text (isVisibleText_text legible)
  | text value => rw [writeValue]; exact uses.writeText value
  | array elements =>
    cases elements with
    | nil => rw [writeValue]; exact uses.text (by decide)
    | cons element elements =>
      have first := forall_mem_writeValue uses (level + 1) legible.1
      have others := forall_mem_writeElements uses (level + 1) legible.2
      simp only [writeValue, List.cons_append, List.forall_mem_append, List.forall_mem_cons,
        and_assoc]
      exact ⟨uses.visible rfl, uses.lineBreak _, first, others, uses.lineBreak _,
        uses.visible rfl, List.forall_mem_nil _⟩
  | object fields =>
    cases fields with
    | nil => rw [writeValue]; exact uses.text (by decide)
    | cons field fields =>
      obtain ⟨name, value⟩ := field
      have first := forall_mem_writeValue uses (level + 1) legible.2.1
      have others := forall_mem_writeFields uses (level + 1) legible.2.2
      simp only [writeValue, List.cons_append, List.forall_mem_append, List.forall_mem_cons,
        and_assoc]
      exact ⟨uses.visible rfl, uses.lineBreak _, uses.writeText name, uses.visible rfl,
        uses.visible rfl, List.forall_mem_nil _, first, others, uses.lineBreak _,
        uses.visible rfl, List.forall_mem_nil _⟩

theorem forall_mem_writeElements (uses : layout.UsesOnly isAllowed) (level : Nat)
    {elements : List Json} (legible : AreLegible asciiOnly elements) :
    ∀ c ∈ writeElements layout level elements, isAllowed c = true := by
  cases elements with
  | nil => exact List.forall_mem_nil _
  | cons element elements =>
    have first := forall_mem_writeValue uses level legible.1
    have others := forall_mem_writeElements uses level legible.2
    simp only [writeElements, List.forall_mem_append, and_assoc]
    exact ⟨uses.separator level, first, others⟩

theorem forall_mem_writeFields (uses : layout.UsesOnly isAllowed) (level : Nat)
    {fields : List (Text × Json)} (legible : HaveLegible asciiOnly fields) :
    ∀ c ∈ writeFields layout level fields, isAllowed c = true := by
  cases fields with
  | nil => exact List.forall_mem_nil _
  | cons field fields =>
    have first := forall_mem_writeValue uses level legible.2.1
    have others := forall_mem_writeFields uses level legible.2.2
    simp only [writeFields, List.forall_mem_append, List.forall_mem_cons, and_assoc]
    exact ⟨uses.separator level, uses.writeText field.1, uses.visible rfl, uses.visible rfl,
      List.forall_mem_nil _, first, others⟩

end

/-- A document that is written in ASCII is plain. -/
theorem isPlainText_write (ascii : layout.asciiOnly = true) {value : Json}
    (legible : IsLegible asciiOnly value) : IsPlainText (value.write layout) := by
  rw [write]
  exact forall_mem_writeValue ⟨ascii, isPlain_of_isVisible, fun _ => rfl⟩ 0 legible

/-- A document on one line that is written in ASCII has visible characters and spaces only. -/
theorem isVisibleText_write (ascii : layout.asciiOnly = true) (oneLine : layout.indent = none)
    {value : Json} (legible : IsLegible asciiOnly value) : IsVisibleText (value.write layout) := by
  rw [write]
  exact forall_mem_writeValue ⟨ascii, id, fun lines => absurd oneLine lines⟩ 0 legible

end Value

end Observance.Json

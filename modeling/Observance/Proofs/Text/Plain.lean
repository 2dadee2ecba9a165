import Mathlib.Data.List.TakeWhile
import Observance.Proofs.Text.CodePoint
import Observance.Text.LineEnd
import Observance.Text.Utf8

/-! # Plain texts

A text is plain if it has only the visible characters of ASCII, spaces and line feeds. Each of them
is one byte, and none is part of another line end, so a plain text is had back from a file whole. A
text without line feeds among them is on one line.
-/

namespace Observance.Text

/-- Whether a character is a visible one of ASCII, a space, or a line feed. -/
def isPlain (c : CodePoint) : Bool := c == '\n' || (' ' ≤ c && c ≤ '~')

def IsPlainText (characters : Text) : Prop := ∀ c ∈ characters, isPlain c = true

instance (characters : Text) : Decidable (IsPlainText characters) :=
  List.decidableBAll _ characters

/-- Whether a character is a visible one of ASCII or a space. -/
def isVisible (c : CodePoint) : Bool := ' ' ≤ c && c ≤ '~'

/-- Whether all characters of a text are visible ones or spaces. -/
def IsVisibleText (characters : Text) : Prop := ∀ c ∈ characters, isVisible c = true

instance (characters : Text) : Decidable (IsVisibleText characters) :=
  List.decidableBAll _ characters

theorem isPlain_of_isVisible {c : CodePoint} (visible : isVisible c = true) : isPlain c = true :=
  Bool.or_eq_true_iff.mpr (.inr visible)

theorem toNat_lt_of_isPlain {c : CodePoint} (plain : isPlain c = true) : c.toNat < 0x80 := by
  simp only [isPlain, Bool.or_eq_true, beq_iff_eq, Bool.and_eq_true, decide_eq_true_eq] at plain
  rcases plain with rfl | ⟨_, low⟩
  · decide
  · exact Nat.lt_of_le_of_lt (CodePoint.le_def.mp low) (by decide)

section PlainText

variable {first second : Text}

theorem isPlainText_cons {c : CodePoint} :
    IsPlainText (c :: second) ↔ isPlain c = true ∧ IsPlainText second :=
  List.forall_mem_cons

theorem isVisibleText_append :
    IsVisibleText (first ++ second) ↔ IsVisibleText first ∧ IsVisibleText second :=
  List.forall_mem_append

theorem isVisibleText_cons {c : CodePoint} :
    IsVisibleText (c :: second) ↔ isVisible c = true ∧ IsVisibleText second :=
  List.forall_mem_cons

theorem isVisibleText_nil : IsVisibleText [] := List.forall_mem_nil _

end PlainText

/-- A plain text is one of characters. -/
theorem isWhole_of_isPlainText {text : Text} (plain : IsPlainText text) : text.isWhole = true := by
  refine List.all_eq_true.mpr fun c member => ?_
  have bound := toNat_lt_of_isPlain (plain c member)
  cases c with
  | char c => rfl
  | half index =>
    rw [CodePoint.toNat_half] at bound
    omega

theorem isUnpaired_of_isVisibleText {text : Text} (visible : IsVisibleText text) :
    text.isUnpaired = true :=
  isUnpaired_of_isWhole (isWhole_of_isPlainText
    fun c member => isPlain_of_isVisible (visible c member))

theorem utf8EncodeChar_ascii : ∀ code < 0x80,
    String.utf8EncodeChar (Char.ofNat code) = [UInt8.ofNat code] := by decide

namespace Utf8

/-- A text can be encoded exactly if it has no halves. -/
theorem encodingError?_eq_none {text : Text} :
    encodingError? text = none ↔ text.isWhole = true := by
  have isHalf (point : CodePoint) : (!point.char?.isNone) = point.char?.isSome := by
    rw [Option.not_isNone]
  simp only [encodingError?, isHalf]
  cases found : text.dropWhile (·.char?.isSome) with
  | nil =>
    rw [List.dropWhile_eq_nil_iff] at found
    simpa [isWhole, List.all_eq_true] using found
  | cons point rest =>
    have notWhole : text.isWhole ≠ true := fun whole => by
      rw [List.dropWhile_eq_nil_iff.mpr (List.all_eq_true.mp whole)] at found
      cases found
    simp [notWhole]

/-- A byte below `0x80` is a character by itself. -/
theorem step_ascii {code : Nat} (bound : code < 0x80) (rest : Bytes) :
    step (UInt8.ofNat code) rest = .char (Char.ofNat code) 0 rest := by
  have byte : (UInt8.ofNat code).toNat = code := by
    rw [UInt8.toNat_ofNat']
    omega
  rw [step, byte, lead?, if_pos bound]
  rfl

/-- Plain characters are decoded from their bytes. -/
theorem decodeFrom_encode {characters : List Char} (plain : IsPlainText (ofChars characters))
    (position : Nat) : decodeFrom position (encode (ofChars characters)) = .ok characters := by
  induction characters generalizing position with
  | nil => simp [encode, decodeFrom]
  | cons c characters ih =>
    obtain ⟨first, others⟩ := isPlainText_cons.mp plain
    have bound : c.toNat < 0x80 := toNat_lt_of_isPlain first
    have code := utf8EncodeChar_ascii c.toNat bound
    rw [Char.ofNat_toNat] at code
    have stepped := step_ascii bound (encode (ofChars characters))
    rw [Char.ofNat_toNat] at stepped
    rw [ofChars_cons, encode, List.flatMap_cons, encodePoint, code, List.singleton_append,
      decodeFrom]
    split
    next c' further rest same =>
      cases stepped.symm.trans same
      rw [ih others]
    next same => cases stepped.symm.trans same

theorem decode_encode {text : Text} (plain : IsPlainText text) :
    decode (encode text) = .ok text := by
  obtain ⟨characters, rfl⟩ := isWhole_iff.mp (isWhole_of_isPlainText plain)
  rw [decode, decodeFrom_encode plain]
  rfl

end Utf8

theorem isWhole_normalizeLineEnds {text : Text} (whole : text.isWhole = true) :
    (normalizeLineEnds text).isWhole = true := by
  fun_induction normalizeLineEnds text with
  | case1 => rfl
  | case2 rest ih => exact ih whole
  | case3 rest _ ih => exact ih whole
  | case4 c rest _ _ ih =>
    simp only [isWhole, List.all_cons, Bool.and_eq_true] at whole ⊢
    exact ⟨whole.1, ih whole.2⟩

/-- A plain text has no line ends but line feeds. -/
theorem normalizeLineEnds_of_isPlainText {characters : Text} (plain : IsPlainText characters) :
    normalizeLineEnds characters = characters := by
  induction characters with
  | nil => rfl
  | cons c characters ih =>
    obtain ⟨first, others⟩ := isPlainText_cons.mp plain
    have notReturn : c ≠ '\r' := by
      rintro rfl
      cases first
    rw [normalizeLineEnds, ih others]
    · rintro rest rfl
      exact fun _ => notReturn rfl
    · exact notReturn

end Observance.Text

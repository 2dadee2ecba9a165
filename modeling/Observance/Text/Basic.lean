/-! # Texts

A text is a sequence of code points. Nearly all code points are characters. The others are the
halves of the pairs by which codes of 16 bits name the characters beyond the first plane: a text may
hold a half that belongs to no pair, although no file can.
-/

namespace Observance

/-- A code point of a text. -/
inductive CodePoint where
  | char (c : Char)
  /-- A half of a pair, by its place among the halves; those of the first place in a pair come
  first. -/
  | half (index : Fin 0x800)
deriving DecidableEq, Repr, Inhabited

namespace CodePoint

instance : Coe Char CodePoint := ⟨char⟩

def toNat : CodePoint → Nat
  | char c => c.toNat
  | half index => 0xD800 + index

def ofNat (code : Nat) : CodePoint :=
  if within : 0xD800 ≤ code ∧ code - 0xD800 < 0x800 then half ⟨code - 0xD800, within.2⟩
  else char (Char.ofNat code)

instance : LT CodePoint := ⟨fun a b => a.toNat < b.toNat⟩

instance : LE CodePoint := ⟨fun a b => a.toNat ≤ b.toNat⟩

instance (a b : CodePoint) : Decidable (a < b) := inferInstanceAs (Decidable (a.toNat < b.toNat))

instance (a b : CodePoint) : Decidable (a ≤ b) := inferInstanceAs (Decidable (a.toNat ≤ b.toNat))

/-- Whether a code point is the first half of a pair. -/
def isHigh : CodePoint → Bool
  | char _ => false
  | half index => index < 0x400

/-- Whether a code point is the second half of a pair. -/
def isLow : CodePoint → Bool
  | char _ => false
  | half index => 0x400 ≤ index

def char? : CodePoint → Option Char
  | char c => some c
  | half _ => none

@[simp] theorem toNat_char (c : Char) : (char c).toNat = c.toNat := rfl

theorem toNat_half (index : Fin 0x800) : (half index).toNat = 0xD800 + index := rfl

end CodePoint

/-- A text, as a sequence of code points. -/
abbrev Text := List CodePoint

namespace Text

def ofChars (characters : List Char) : Text := characters.map .char

def ofString (literal : String) : Text := ofChars literal.toList

instance : Coe String Text := ⟨ofString⟩

@[simp] theorem ofChars_nil : ofChars [] = [] := rfl

@[simp] theorem ofChars_cons (c : Char) (characters : List Char) :
    ofChars (c :: characters) = .char c :: ofChars characters := rfl

@[simp] theorem ofChars_append (front back : List Char) :
    ofChars (front ++ back) = ofChars front ++ ofChars back := List.map_append

@[simp] theorem length_ofChars (characters : List Char) :
    (ofChars characters).length = characters.length := List.length_map ..

@[simp] theorem ofString_inj {first second : String} :
    ofString first = ofString second ↔ first = second := by
  simp [ofString, ofChars, List.map_inj_right, String.toList_inj]

@[simp] theorem ofString_beq (first second : String) :
    (ofString first == ofString second) = (first == second) := by
  rw [Bool.eq_iff_iff, beq_iff_eq, beq_iff_eq, ofString_inj]

def numeral (base value : Nat) : Text := ofChars (Nat.toDigits base value)

/-- The characters of a text, unless one of its code points is a half. -/
def chars? (text : Text) : Option (List Char) := text.mapM CodePoint.char?

/-- Whether all code points of a text are characters. -/
def isWhole (text : Text) : Bool := text.all (·.char?.isSome)

end Text

end Observance

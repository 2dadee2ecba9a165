import Observance.Text.Basic

/-! # Blank characters

The blanks are the characters that Unicode 14.0 counts as white space or as paragraph and segment
separators; the four information separators are among them, the zero-width space is not.
-/

namespace Observance.Text

def isBlankCode (code : Nat) : Bool :=
  (9 ≤ code && code ≤ 13) || (28 ≤ code && code ≤ 32) || code == 0x85 || code == 0xA0 ||
    code == 0x1680 || (0x2000 ≤ code && code ≤ 0x200A) || code == 0x2028 || code == 0x2029 ||
    code == 0x202F || code == 0x205F || code == 0x3000

def isBlank (c : CodePoint) : Bool := isBlankCode c.toNat

def trimLeft (text : Text) : Text := text.dropWhile isBlank

def trimRight (text : Text) : Text := (trimLeft text.reverse).reverse

/-- A text without the blanks at its two ends. -/
def trim (text : Text) : Text := trimRight (trimLeft text)

end Observance.Text

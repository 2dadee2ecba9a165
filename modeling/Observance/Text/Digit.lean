import Observance.Text.Basic

/-! # Decimal digits

Unicode 14.0 has decimal digits in many scripts, always ten code points in a row. A digit's value
is its distance from the zero of its row, and the digits of different scripts may be mixed.
-/

namespace Observance.Text

/-- The zeros of all rows of decimal digits. -/
def digitZeros : List Nat := [
  48, 1632, 1776, 1984, 2406, 2534, 2662, 2790, 2918, 3046, 3174, 3302, 3430, 3558, 3664, 3792,
  3872, 4160, 4240, 6112, 6160, 6470, 6608, 6784, 6800, 6992, 7088, 7232, 7248, 42528, 43216,
  43264, 43472, 43504, 43600, 44016, 65296, 66720, 68912, 69734, 69872, 69942, 70096, 70384,
  70736, 70864, 71248, 71360, 71472, 71904, 72016, 72784, 73040, 73120, 92768, 92864, 93008,
  120782, 120792, 120802, 120812, 120822, 123200, 123632, 125264, 130032]
/-- The value of a decimal digit of any script, by its code point. -/
def digitValueOfCode? (code : Nat) : Option Nat :=
  (digitZeros.find? fun start => start ≤ code && code < start + 10).map (code - ·)

/-- The value of a decimal digit of any script. -/
def digitValue? (c : CodePoint) : Option Nat := digitValueOfCode? c.toNat

def isDigit (c : CodePoint) : Bool := (digitValue? c).isSome

/-- The number that a run of digits denotes, most significant digit first; a character that is no
digit counts as zero. -/
def digitsValue (digits : Text) : Nat :=
  digits.foldl (fun value c => 10 * value + (digitValue? c).getD 0) 0

def isAsciiDigit (c : CodePoint) : Bool := '0' ≤ c && c ≤ '9'

def hexValue? (c : CodePoint) : Option Nat :=
  if isAsciiDigit c then some (c.toNat - 48)
  else if 'a' ≤ c && c ≤ 'f' then some (c.toNat - 87)
  else if 'A' ≤ c && c ≤ 'F' then some (c.toNat - 55)
  else none

/-- The decimal digits of a number, padded with zeros to at least `width`. -/
def paddedDecimal (width value : Nat) : Text :=
  let digits := numeral 10 value
  List.replicate (width - digits.length) (.char '0') ++ digits

end Observance.Text

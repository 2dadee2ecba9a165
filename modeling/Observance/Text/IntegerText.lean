import Observance.Text.Blank
import Observance.Text.Digit
import Observance.Text.Quoted

/-! # Integers in text

An integer may be surrounded by blanks, carry a sign, use decimal digits of any script, and have
single underscores between digits. Conversions of more than 4300 digits are refused, because their
cost grows faster than their length.
-/

namespace Observance.Text

/-- Why a text does not give an integer. -/
inductive IntegerError where
  /-- The text is not of the form of an integer. -/
  | malformed (text : Text)
  /-- There are more digits than a conversion accepts. -/
  | tooManyDigits (count : Nat)
deriving Repr, DecidableEq

def maxIntegerDigits : Nat := 4300

/-- The wording of an integer error; a long text is cut off after 200 characters. -/
def IntegerError.message : IntegerError → Text
  | .malformed text =>
    "invalid literal for int() with base 10: " ++ (quote text).take 200
  | .tooManyDigits count =>
    s!"Exceeds the limit ({maxIntegerDigits} digits) for integer string conversion: value has " ++
      s!"{count} digits; use sys.set_int_max_str_digits() to increase the limit"

/-- The value of a plain run of decimal digits, within the digit limit. -/
def digitsToNat (digits : Text) : Except IntegerError Nat :=
  if digits.length > maxIntegerDigits then .error (.tooManyDigits digits.length)
  else .ok (digitsValue digits)

/-- The longest front part made of digits and underscores, and what follows it. -/
def splitDigits (text : Text) : Text × Text :=
  text.span fun c => isDigit c || c == '_'

/-- Underscores are allowed only between two digits. -/
def underscoresSeparate : Text → Bool
  | [] => false
  | [c] => c != '_'
  | '_' :: _ => false
  | _ :: '_' :: rest => underscoresSeparate rest
  | _ :: next :: rest => underscoresSeparate (next :: rest)

/-- A sign in front of a number, and what follows it. -/
def splitSign : Text → Bool × Text
  | '-' :: rest => (true, rest)
  | '+' :: rest => (false, rest)
  | text => (false, text)

/-- Reads an integer. The digit limit is checked before what follows the digits. -/
def readInteger (text : Text) : Except IntegerError Int := do
  let (negative, unsigned) := splitSign (trim text)
  let (body, rest) := splitDigits unsigned
  if underscoresSeparate body then
    let magnitude ← digitsToNat (body.filter (· != '_'))
    if rest.isEmpty then
      return if negative then -(magnitude : Int) else magnitude
    else .error (.malformed text)
  else .error (.malformed text)

end Observance.Text

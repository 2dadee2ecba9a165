import Observance.Binary64

/-! # Numbers in messages

A message may ask for a number with a given count of decimals, in positional or in scientific
notation. Both round the exact value once, to the even digit on a tie.
-/

namespace Observance.Log

/-- Digits with a point before the last `decimals` of them. -/
def placePoint (decimals : Nat) (keepPoint : Bool) (digits : Text) : Text :=
  let padded := List.replicate (decimals + 1 - digits.length) (.char '0') ++ digits
  let whole := padded.take (padded.length - decimals)
  let fraction := padded.drop (padded.length - decimals)
  if fraction.isEmpty && !keepPoint then whole else whole ++ .char '.' :: fraction

def fixedText (numerator denominator decimals : Nat) (keepPoint : Bool) : Text :=
  placePoint decimals keepPoint
    (Text.numeral 10 (Binary64.divideToEven (numerator * Nat.pow 10 decimals) denominator))

/-- A quotient rounded to `decimals + 1` digits, and the power of ten of the first of them, which
is taken to be `power` or, if rounding carries, one more. -/
def roundedDigits (numerator denominator decimals : Nat) (power : Int) : Text × Int :=
  let shift : Int := decimals - power
  let rounded := match shift with
    | .ofNat up => Binary64.divideToEven (numerator * Nat.pow 10 up) denominator
    | .negSucc down => Binary64.divideToEven numerator (denominator * Nat.pow 10 (down + 1))
  let digits := Text.numeral 10 rounded
  if digits.length > decimals + 1 then (digits.take (decimals + 1), power + 1) else (digits, power)

/-- The digits of a finite number, rounded to `decimals + 1` of them, and the power of ten of the
first. -/
def scientificDigits (significand : Nat) (exponent : Int) (decimals : Nat) : Text × Int :=
  if significand = 0 then (List.replicate (decimals + 1) '0', 0)
  else
    let (numerator, denominator) := Binary64.ratio significand exponent
    roundedDigits numerator denominator decimals (Binary64.pointOf significand exponent - 1)

/-- A power of ten of at least two digits, with its sign. -/
def powerText (power : Int) : Text :=
  let digits := Text.numeral 10 power.natAbs
  .char 'e' :: (if power < 0 then '-' else '+') ::
    (List.replicate (2 - digits.length) (.char '0') ++ digits)

def scientificText (significand : Nat) (exponent : Int) (decimals : Nat) (keepPoint : Bool) :
    Text :=
  let (digits, power) := scientificDigits significand exponent decimals
  placePoint decimals keepPoint digits ++ powerText power

/-- A number without zeros at its end, and without a point that nothing follows. -/
def dropZeros (text : Text) : Text :=
  if text.contains '.' then
    let kept := text.reverse.dropWhile (· == .char '0')
    (if kept.head? == some (.char '.') then kept.drop 1 else kept).reverse
  else text

/-- A number with at most `precision` digits, in the notation that suits its size. -/
def generalText (significand : Nat) (exponent : Int) (precision : Nat) (keepPoint : Bool) :
    Text :=
  let precision := max precision 1
  let (digits, power) := scientificDigits significand exponent (precision - 1)
  let tidy := if keepPoint then id else dropZeros
  if -4 ≤ power ∧ power < precision then
    let decimals := ((precision : Int) - 1 - power).toNat
    let (numerator, denominator) := Binary64.ratio significand exponent
    tidy (fixedText numerator denominator decimals keepPoint)
  else tidy (placePoint (precision - 1) keepPoint digits) ++ powerText power

end Observance.Log

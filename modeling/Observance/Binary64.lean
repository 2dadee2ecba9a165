import Observance.Text.Basic

/-! # Binary floating-point numbers

The numbers of the 64-bit binary format: a significand of at most 53 bits times a power of two that
is at least `2 ^ -1074`, two infinities, and one value that is no number. Everything here is exact
integer arithmetic: reading a decimal rounds once, to the nearest number and to an even significand
on a tie, and writing finds the shortest decimal that reads back.
-/

namespace Observance

/-- A number of the 64-bit binary format. -/
inductive Binary64 where
  | nan
  | infinite (negative : Bool)
  | finite (negative : Bool) (significand : Nat) (exponent : Int)
deriving Repr, DecidableEq, Inhabited

namespace Binary64

/-- The quotient rounded to the nearest integer, to the even one on a tie. -/
def divideToEven (numerator denominator : Nat) : Nat :=
  let quotient := numerator / denominator
  let twice := 2 * (numerator % denominator)
  if twice > denominator || (twice == denominator && quotient % 2 == 1) then quotient + 1
  else quotient

def leastExponent : Int := -1074

def greatestExponent : Int := 971

/-- A quotient of numbers, scaled down by a power of two, as numerator and denominator. -/
def scaleDown (numerator denominator : Nat) (exponent : Int) : Nat × Nat :=
  match exponent with
  | .ofNat up => (numerator, denominator * Nat.pow 2 up)
  | .negSucc down => (numerator * Nat.pow 2 (down + 1), denominator)

/-- The number nearest to a positive quotient. -/
def ofRatio (negative : Bool) (numerator denominator : Nat) : Binary64 :=
  if numerator = 0 then .finite negative 0 leastExponent
  else
    let rough : Int := (Nat.log2 numerator : Int) - Nat.log2 denominator - 53
    let tooFine := max rough leastExponent
    let (n, d) := scaleDown numerator denominator tooFine
    let exponent := if n / d ≥ Nat.pow 2 53 then tooFine + 1 else tooFine
    let (n, d) := scaleDown numerator denominator exponent
    let rounded := divideToEven n d
    let (significand, exponent) :=
      if rounded = Nat.pow 2 53 then (Nat.pow 2 52, exponent + 1) else (rounded, exponent)
    if exponent > greatestExponent then .infinite negative
    else .finite negative significand exponent

/-- The number nearest to `digits · 10 ^ exponent`. Exponents far outside the range are settled
without computing the power. -/
def ofDecimal (negative : Bool) (digits : Nat) (exponent : Int) : Binary64 :=
  let size : Int := (Nat.toDigits 10 digits).length + exponent
  if digits = 0 || size < -330 then .finite negative 0 leastExponent
  else if size > 320 then .infinite negative
  else match exponent with
    | .ofNat up => ofRatio negative (digits * Nat.pow 10 up) 1
    | .negSucc down => ofRatio negative digits (Nat.pow 10 (down + 1))

/-- The size of a finite number as numerator and denominator. -/
def ratio (significand : Nat) (exponent : Int) : Nat × Nat :=
  match exponent with
  | .ofNat up => (significand * Nat.pow 2 up, 1)
  | .negSucc down => (significand, Nat.pow 2 (down + 1))

/-- Order between a finite number's size, with its sign, and an integer. -/
def compareFinite (negative : Bool) (significand : Nat) (exponent : Int) (value : Int) : Ordering :=
  let (numerator, denominator) := ratio significand exponent
  let signed : Int := if negative then -(numerator : Int) else numerator
  compare signed (value * denominator)

/-- Order between a number and an integer; none for the value that is no number. -/
def compareInt? : Binary64 → Int → Option Ordering
  | .nan, _ => none
  | .infinite negative, _ => some (if negative then .lt else .gt)
  | .finite negative significand exponent, value =>
    some (compareFinite negative significand exponent value)

/-- Order between two numbers; none if either is no number. -/
def compare? : Binary64 → Binary64 → Option Ordering
  | .nan, _ | _, .nan => none
  | .infinite a, .infinite b => some (compare (!a).toNat (!b).toNat)
  | .infinite negative, .finite .. => some (if negative then .lt else .gt)
  | .finite .., .infinite negative => some (if negative then .gt else .lt)
  | .finite n s e, .finite m t f =>
    let (a, b) := ratio s e
    let (c, d) := ratio t f
    let left : Int := if n then -(a : Int) else a
    let right : Int := if m then -(c : Int) else c
    some (compare (left * d) (right * b))

def isZero : Binary64 → Bool
  | .finite _ 0 _ => true
  | _ => false

/-- The bounds of the interval of sizes that round to a finite number, over a common denominator,
and the size itself: lower bound, size, upper bound, denominator. -/
def roundingInterval (significand : Nat) (exponent : Int) : Nat × Nat × Nat × Nat :=
  let (n, d) := ratio 1 exponent
  let below := if significand = Nat.pow 2 52 && exponent > leastExponent then 1 else 2
  ((4 * significand - below) * n, 4 * significand * n, (4 * significand + 2) * n, 4 * d)

/-- The decimal of a given number of digits nearest to a size, if it reads back; of two equally near
ones the even one. `point` is the number of digits before the decimal point. -/
def decimalOfLength? (significand : Nat) (exponent point : Int) (length : Nat) : Option Nat :=
  let (low, size, high, denominator) := roundingInterval significand exponent
  let unit : Int := point - length
  let (scaleUp, scaleDown) : Nat × Nat := match unit with
    | .ofNat up => (Nat.pow 10 up, 1)
    | .negSucc down => (1, Nat.pow 10 (down + 1))
  let step := denominator * scaleUp
  let floor := size * scaleDown / step
  let fits (digits : Nat) : Bool :=
    let value := digits * step
    let low := low * scaleDown
    let high := high * scaleDown
    if significand % 2 == 0 then low ≤ value && value ≤ high else low < value && value < high
  let toAbove := (floor + 1) * step - size * scaleDown
  let toFloor := size * scaleDown - floor * step
  let aboveIsNearer := toAbove < toFloor || (toAbove == toFloor && floor % 2 == 1)
  match fits floor, fits (floor + 1) with
  | true, true => some (if aboveIsNearer then floor + 1 else floor)
  | true, false => some floor
  | false, true => some (floor + 1)
  | false, false => none

/-- The number of digits before the decimal point of a positive size; zero or less if the size is
below one tenth. -/
def pointOf (significand : Nat) (exponent : Int) : Int :=
  let (n, d) := ratio significand exponent
  (Nat.toDigits 10 (n * Nat.pow 10 340 / d)).length - 340

/-- The shortest decimal that reads back: its digits, and where the decimal point stands. -/
def shortest (significand : Nat) (exponent : Int) : Text × Int :=
  let point := pointOf significand exponent
  let found := (List.range 17).findSome? fun n =>
    decimalOfLength? significand exponent point (n + 1)
  let all := Text.numeral 10 (found.getD 0)
  let length := (List.range 17).find? fun n =>
    (decimalOfLength? significand exponent point (n + 1)).isSome
  let carried : Int := all.length - (length.getD 0 + 1 : Nat)
  ((all.reverse.dropWhile (· == .char '0')).reverse, point + carried)

/-- How a number is laid out: decimals whose point stands at most `greatestPoint` digits after and
more than `leastPoint` digits before their first digit are written in full, others with an
exponent of at least two digits. -/
structure RealLayout where
  leastPoint : Int
  greatestPoint : Int

def standardLayout : RealLayout := ⟨-4, 16⟩

def layOut (layout : RealLayout) (digits : Text) (point : Int) : Text :=
  if point ≤ layout.leastPoint || point > layout.greatestPoint then
    let power := point - 1
    let magnitude := Text.numeral 10 power.natAbs
    let padded := if magnitude.length < 2 then .char '0' :: magnitude else magnitude
    let fraction := digits.drop 1
    digits.take 1 ++ (if fraction.isEmpty then [] else .char '.' :: fraction) ++
      [.char 'e', if power < 0 then .char '-' else .char '+'] ++ padded
  else if point ≤ 0 then
    .char '0' :: .char '.' :: (List.replicate (-point).toNat (.char '0') ++ digits)
  else
    let whole := digits.take point.toNat
    let fraction := digits.drop point.toNat
    whole ++ List.replicate (point.toNat - whole.length) (.char '0') ++
      (.char '.' :: if fraction.isEmpty then [.char '0'] else fraction)

def text (infinity noNumber : Text) : Binary64 → Text
  | .nan => noNumber
  | .infinite negative => if negative then "-" ++ infinity else infinity
  | .finite negative significand exponent =>
    let size : Text :=
      if significand = 0 then ['0', '.', '0']
      else
        let (digits, point) := shortest significand exponent
        layOut standardLayout digits point
    if negative then '-' :: size else size

end Binary64

end Observance

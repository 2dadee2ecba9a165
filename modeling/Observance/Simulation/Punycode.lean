import Observance.Text.Digit

/-! # Punycode

Punycode writes a text in ASCII: first its characters that are in ASCII, then a hyphen, and then a
number for each other character, which says where it is inserted. The numbers are differences, in
the order of the code points, and are written with digits whose weights adapt to the numbers before.
-/

namespace Observance.Simulation.Punycode

open Observance.Text

def base : Nat := 36

def thresholdBounds : Nat × Nat := (1, 26)

def firstBias : Nat := 72

def firstCode : Nat := 0x80

/-- The threshold at a place of a number: a digit below it is the last. -/
def threshold (place bias : Nat) : Nat :=
  min (max (base * (place + 1) - bias) thresholdBounds.1) thresholdBounds.2

/-- Divides a difference until it is small, and counts in steps of the base. -/
def settle (difference divided : Nat) : Nat × Nat :=
  if 455 < difference then settle (difference / 35) (divided + base) else (difference, divided)
termination_by difference
decreasing_by omega

/-- The bias after a difference, given the number of characters after it. -/
def adapt (difference : Nat) (isFirst : Bool) (size : Nat) : Nat :=
  let difference := difference / if isFirst then 700 else 2
  let (difference, divided) := settle (difference + difference / size) 0
  divided + base * difference / (difference + 38)

def digit (value : Nat) : CodePoint :=
  if value < 26 then CodePoint.ofNat (97 + value) else CodePoint.ofNat (22 + value)

/-- The digits of a number; every digit but the last takes part of it away, so as many steps as the
number has bits are enough. -/
def digitsOf (bias : Nat) : Nat → Nat → Nat → Text
  | 0, _, _ => []
  | steps + 1, place, number =>
    let threshold := threshold place bias
    if number < threshold then [digit number]
    else
      digit (threshold + (number - threshold) % (base - threshold)) ::
        digitsOf bias steps (place + 1) ((number - threshold) / (base - threshold))

/-- How far encoding has come: the difference since the last number, the bias, and the number of
characters that are written. -/
structure Progress where
  difference : Nat
  bias : Nat
  written : Nat
  isFirst : Bool

/-- Passes over a text for one code point: counts the characters below it, and writes a number where
it stands. -/
def encodeCode (code : Nat) : Progress → List Nat → Text × Progress
  | progress, [] => ([], progress)
  | progress, other :: rest =>
    if other < code then
      encodeCode code { progress with difference := progress.difference + 1 } rest
    else if other = code then
      let digits := digitsOf progress.bias (progress.difference.log2 + 2) 0 progress.difference
      let bias := adapt progress.difference progress.isFirst (progress.written + 1)
      let (more, last) := encodeCode code
        { difference := 0, bias, written := progress.written + 1, isFirst := false } rest
      (digits ++ more, last)
    else encodeCode code progress rest

/-- Writes the numbers of all code points, given in order, after those up to `last`. -/
def encodeCodes (text : List Nat) (last : Nat) : Progress → List Nat → Text
  | _, [] => []
  | progress, code :: codes =>
    let skipped := (code - last) * (progress.written + 1)
    let (digits, progress) := encodeCode code
      { progress with difference := progress.difference + skipped } text
    digits ++ encodeCodes text (code + 1)
      { progress with difference := progress.difference + 1 } codes

/-- A text in ASCII. -/
def encode (text : Text) : Text :=
  let codes := text.map CodePoint.toNat
  let plain := text.filter (·.toNat < firstCode)
  let others := ((codes.filter (firstCode ≤ ·)).mergeSort (· ≤ ·)).eraseDups
  let progress := { difference := 0, bias := firstBias, written := plain.length, isFirst := true }
  (if plain.isEmpty then [] else plain ++ [.char '-']) ++
    encodeCodes codes firstCode progress others

def digitValue? (c : CodePoint) : Option Nat :=
  if 'A' ≤ c && c ≤ 'Z' then some (c.toNat - 65)
  else if 'a' ≤ c && c ≤ 'z' then some (c.toNat - 97)
  else if isAsciiDigit c then some (c.toNat - 22)
  else none

/-- The number at the front of some digits, and the characters after it. -/
def readNumber? (bias place weight number : Nat) : Text → Option (Nat × Text)
  | [] => none
  | c :: rest =>
    match digitValue? c with
    | none => none
    | some digit =>
      let threshold := threshold place bias
      let number := number + digit * weight
      if digit < threshold then some (number, rest)
      else readNumber? bias (place + 1) (weight * (base - threshold)) number rest

/-- Inserts the characters that numbers give, until there is no number. Every number has a digit, so
as many steps as there are digits are enough. A code point beyond the last plane gives a question
mark. -/
def insertAll (text : Text) (code place bias : Nat) (isFirst : Bool) :
    Nat → Text → Text
  | 0, _ => text
  | steps + 1, digits =>
    match readNumber? bias 0 1 0 digits with
    | none => text
    | some (difference, rest) =>
      let size := text.length + 1
      let moved := place + difference
      let code := code + moved / size
      let code := if 0x10FFFF < code then '?'.toNat else code
      let place := moved % size
      let text := text.take place ++ CodePoint.ofNat code :: text.drop place
      insertAll text code (place + 1) (adapt difference isFirst text.length) false steps rest

/-- The text of characters in ASCII, and of the digits of the numbers of the others. -/
def decode (plain digits : Text) : Text :=
  insertAll plain firstCode 0 firstBias true digits.length digits

end Observance.Simulation.Punycode

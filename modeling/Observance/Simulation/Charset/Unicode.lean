import Observance.Simulation.Charset.Step

/-! # UTF-16 and UTF-32

A unit has two or four bytes, in either order. A mark at the front says which order; without one the
byte of lower value comes first. In UTF-16 a pair of halves is one character, and a half alone is a
fault.
-/

namespace Observance.Simulation.Charset

open Observance.Text

def word (isBig : Bool) (a b : UInt8) : Nat :=
  if isBig then a.toNat * 0x100 + b.toNat else b.toNat * 0x100 + a.toNat

def units16 (isBig : Bool) : Bytes → Units
  | [] => []
  | [_] => [none]
  | a :: b :: rest =>
    let unit := word isBig a b
    if 0xD800 ≤ unit && unit ≤ 0xDBFF then
      match rest with
      | c :: d :: rest =>
        let second := word isBig c d
        if 0xDC00 ≤ second && second ≤ 0xDFFF then
          (scalar? (0x10000 + (unit - 0xD800) * 0x400 + (second - 0xDC00))).map .char ::
            units16 isBig rest
        else none :: units16 isBig (c :: d :: rest)
      | _ => [none]
    else (scalar? unit).map .char :: units16 isBig rest

def units32 (isBig : Bool) : Bytes → Units
  | [] => []
  | a :: b :: c :: d :: rest =>
    let code :=
      if isBig then word true a b * 0x10000 + word true c d
      else word false c d * 0x10000 + word false a b
    (scalar? code).map .char :: units32 isBig rest
  | _ => [none]

/-- The units of bytes in either order, with the mark that says which. -/
def unitsMarked (littleMark bigMark : Bytes) (units : Bool → Bytes → Units) (bytes : Bytes) :
    Units :=
  if littleMark.isPrefixOf bytes then units false (bytes.drop littleMark.length)
  else if bigMark.isPrefixOf bytes then units true (bytes.drop bigMark.length)
  else units false bytes

end Observance.Simulation.Charset

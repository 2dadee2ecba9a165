import Observance.Simulation.Charset.Step

/-! # UTF-7

Characters of ASCII stand for themselves, except for the plus sign. It begins a run in base 64,
whose bits are units of UTF-16 one after another. A character that is no digit of base 64 ends the
run; a hyphen is then taken as its end, and other characters stand for themselves.
-/

namespace Observance.Simulation.Charset.Utf7

open Observance.Text

def digit? (byte : UInt8) : Option Nat :=
  let code := byte.toNat
  if 0x41 ≤ code && code ≤ 0x5A then some (code - 0x41)
  else if 0x61 ≤ code && code ≤ 0x7A then some (code - 0x61 + 26)
  else if 0x30 ≤ code && code ≤ 0x39 then some (code - 0x30 + 52)
  else if code = 0x2B then some 62
  else if code = 0x2F then some 63
  else none

/-- A run in base 64: the bits that do not make a unit yet, how many there are, and the first
half of a pair that waits for its second. -/
structure Run where
  bits : Nat := 0
  count : Nat := 0
  half : Option Nat := none

/-- Whether the bits that are left at the end of a run are no padding. -/
def Run.isPartial (run : Run) : Bool :=
  6 ≤ run.count || (0 < run.count && run.bits ≠ 0)

/-- The characters of a unit after a first half of a pair, or after none, and the half that it may
be itself. -/
def unitOf (half : Option Nat) (unit : Nat) : Units × Option Nat :=
  let isFirst := 0xD800 ≤ unit && unit ≤ 0xDBFF
  let isSecond := 0xDC00 ≤ unit && unit ≤ 0xDFFF
  match half with
  | some first =>
    if isSecond then ([point? (0x10000 + (first - 0xD800) * 0x400 + (unit - 0xDC00))], none)
    else if isFirst then ([point? first], some unit)
    else ([point? first, point? unit], none)
  | none => if isFirst then ([], some unit) else ([point? unit], none)

def Run.push (run : Run) (digit : Nat) : Units × Run :=
  let bits := run.bits * 64 + digit
  let count := run.count + 6
  if count < 16 then ([], { run with bits, count })
  else
    let rest := count - 16
    let (units, half) := unitOf run.half (bits / Nat.pow 2 rest)
    (units, { bits := bits % Nat.pow 2 rest, count := rest, half })

/-- The characters of bytes, in a run or outside of one. -/
def unitsIn : Option Run → Bytes → Units
  | none, [] => []
  | some run, [] => if run.half.isSome || run.isPartial then [none] else []
  | some run, byte :: rest =>
    match digit? byte with
    | some digit =>
      let (units, run) := run.push digit
      units ++ unitsIn (some run) rest
    | none =>
      if run.isPartial then none :: unitsIn none rest
      else
        let half := (run.half.filter fun _ => byte < 0x80).toList.map point?
        if byte = 0x2D then half ++ unitsIn none rest
        else half ++ (if byte < 0x80 then point? byte.toNat else none) :: unitsIn none rest
  | none, 0x2B :: rest =>
    match rest with
    | [] => []
    | next :: after =>
      if next = 0x2D then some '+' :: unitsIn none after
      else if (digit? next).isNone then none :: unitsIn none after
      else unitsIn (some {}) (next :: after)
  | none, byte :: rest => (if byte < 0x80 then point? byte.toNat else none) :: unitsIn none rest

def units (bytes : Bytes) : Units := unitsIn none bytes

end Observance.Simulation.Charset.Utf7

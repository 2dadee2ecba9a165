import Observance.Simulation.Charset.CodeTable
import Observance.Text.Utf8

/-! # Decoding in steps

Bytes are decoded in steps. A step takes one or more bytes, and gives the characters that they stand
for, or a fault. What a byte stands for may depend on the bytes before it; then there is a state
that steps hand on.
-/

namespace Observance.Simulation.Charset

open Observance.Text

/-- Code points, with `none` for each fault. -/
abbrev Units := List (Option CodePoint)

def Units.ofChars (characters : List Char) : Units := characters.map (some ∘ .char)

/-- The code point of a number, up to the last plane. -/
def point? (code : Nat) : Option CodePoint := if code < 0x110000 then some (.ofNat code) else none

/-- What a step gives, and the bytes after those that it takes. -/
structure Step where
  units : Units
  rest : Bytes

namespace Step

def chars (characters : List Char) (rest : Bytes) : Step := ⟨.ofChars characters, rest⟩

def point? (point : Option CodePoint) (rest : Bytes) : Step := ⟨[point], rest⟩

def char? (character : Option Char) (rest : Bytes) : Step := point? (character.map .char) rest

def scalar (code : Nat) (rest : Bytes) : Step := char? (scalar? code) rest

/-- Nothing but a change of state. -/
def silent (rest : Bytes) : Step := ⟨[], rest⟩

def fault (rest : Bytes) : Step := ⟨[none], rest⟩

/-- The bytes end within a character, which is one fault. -/
def unfinished : Step := ⟨[none], []⟩

/-- What a code of two bytes stands for. If that is nothing, only the first byte is a fault. -/
def doubleUnits (units : Nat → Units) (first : UInt8) : Bytes → Step
  | [] => unfinished
  | second :: rest =>
    match units (first.toNat * 0x100 + second.toNat) with
    | [] => fault (second :: rest)
    | found => ⟨found, rest⟩

def double (characters : Nat → List Char) : UInt8 → Bytes → Step :=
  doubleUnits fun code => .ofChars (characters code)

def asciiOr (other : UInt8 → Bytes → Step) (byte : UInt8) (rest : Bytes) : Step :=
  if byte < 0x80 then scalar byte.toNat rest else other byte rest

end Step

/-- Decodes bytes with a bound on the number of steps. -/
def unitsWithin {State : Type} (step : State → UInt8 → Bytes → Step × State) :
    Nat → State → Bytes → Units
  | 0, _, _ | _, _, [] => []
  | steps + 1, state, byte :: bytes =>
    let (next, state) := step state byte bytes
    next.units ++ unitsWithin step steps state next.rest

/-- Decodes bytes in steps that hand on a state. Every step takes a byte, so there are at most as
many steps as bytes. -/
def unitsFrom {State : Type} (step : State → UInt8 → Bytes → Step × State) (state : State)
    (bytes : Bytes) : Units :=
  unitsWithin step bytes.length state bytes

/-- Decodes bytes in steps that do not depend on each other. -/
def unitsBy (step : UInt8 → Bytes → Step) (bytes : Bytes) : Units :=
  unitsFrom (fun _ byte rest => (step byte rest, ())) () bytes

end Observance.Simulation.Charset

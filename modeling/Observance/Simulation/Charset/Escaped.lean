import Observance.Simulation.Charset.Step
import Observance.Text.CharacterName
import Observance.Text.Digit

/-! # Escaped text

A backslash begins the escape of a character, which may give its number or its name. Other bytes
stand for the code points of their own value. The raw form has only the escapes of four and of eight
hexadecimal digits; other backslashes stand for themselves.
-/

namespace Observance.Simulation.Charset.Escaped

open Observance.Text

def plain (bytes : Bytes) : List Char := bytes.map fun byte => Char.ofNat byte.toNat

/-- The number of hexadecimal digits at the front, of which there are at most `count`, and the bytes
after them; none if there are fewer. -/
def hexNumber (value : Nat) : Nat → Bytes → Option Nat × Bytes
  | 0, bytes => (some value, bytes)
  | _ + 1, [] => (none, [])
  | count + 1, byte :: rest =>
    match hexValue? (.ofNat byte.toNat) with
    | some digit => hexNumber (value * 16 + digit) count rest
    | none => (none, byte :: rest)

/-- The character that hexadecimal digits give the number of. What is read of a number that is none
is a fault. -/
def stepNumber (count : Nat) (bytes : Bytes) : Step :=
  let (number, rest) := hexNumber 0 count bytes
  .point? (number.bind Charset.point?) rest

def letterEscapes : List (Char × Char) :=
  [('\\', '\\'), ('\'', '\''), ('"', '"'), ('b', '\x08'), ('f', '\x0c'), ('t', '\t'), ('n', '\n'),
    ('r', '\r'), ('v', '\x0b'), ('a', '\x07')]

/-- The number of octal digits at the front, of which at most `count` are read, and the bytes after
them. -/
def octalNumber (value : Nat) : Nat → Bytes → Nat × Bytes
  | 0, bytes => (value, bytes)
  | _, [] => (value, [])
  | count + 1, byte :: rest =>
    if 0x30 ≤ byte && byte ≤ 0x37 then octalNumber (value * 8 + (byte.toNat - 0x30)) count rest
    else (value, byte :: rest)

def stepName (bytes : Bytes) : Step :=
  match bytes with
  | 0x7B :: rest =>
    match rest.span (· ≠ 0x7D) with
    | (_, []) => .unfinished
    | ([], brace :: after) => .fault (brace :: after)
    | (name, _ :: after) => .char? ((codeOfName? (plain name)).bind scalar?) after
  | _ => .fault bytes

def stepEscape (bytes : Bytes) : Step :=
  match bytes with
  | [] => .unfinished
  | byte :: rest =>
    let letter := Char.ofNat byte.toNat
    match letterEscapes.lookup letter, letter with
    | some character, _ => .chars [character] rest
    | none, '\n' => .silent rest
    | none, 'x' => stepNumber 2 rest
    | none, 'u' => stepNumber 4 rest
    | none, 'U' => stepNumber 8 rest
    | none, 'N' => stepName rest
    | none, _ =>
      if '0' ≤ letter && letter ≤ '7' then
        let (number, rest) := octalNumber 0 3 bytes
        .scalar number rest
      else .chars ['\\', letter] rest

def step (byte : UInt8) (rest : Bytes) : Step :=
  if byte = 0x5C then stepEscape rest else .scalar byte.toNat rest

def stepRaw (byte : UInt8) (rest : Bytes) : Step :=
  match byte, rest with
  | 0x5C, 0x75 :: digits => stepNumber 4 digits
  | 0x5C, 0x55 :: digits => stepNumber 8 digits
  | 0x5C, next :: after => .chars ['\\', Char.ofNat next.toNat] after
  | _, _ => .scalar byte.toNat rest

end Observance.Simulation.Charset.Escaped

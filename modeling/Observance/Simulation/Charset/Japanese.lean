import Observance.Simulation.Charset.Step
import Observance.Simulation.Charset.Table.Jisx0208
import Observance.Simulation.Charset.Table.Jisx0212
import Observance.Simulation.Charset.Table.Jisx0213
import Observance.Simulation.Charset.Table.Windows932

/-! # Japanese character sets

A character has a row and a column from 33 to 126, and perhaps a plane. The extended form writes
them with their upper bits set. The shifted form packs two rows into one first byte, which leaves
room for narrow katakana.
-/

namespace Observance.Simulation.Charset

open Observance.Text

/-- An edition of JIS X 0213. -/
inductive Edition where
  | of2000
  | of2004
deriving DecidableEq, Repr

def addedIn2004 : List Nat :=
  [0x2E21, 0x2F7E, 0x4F54, 0x4F7E, 0x7427, 0x7E7A, 0x7E7B, 0x7E7C, 0x7E7D, 0x7E7E]

def ofJisx0208 (code : Nat) : List Char := (Table.jisx0208.get? code).toList

/-- The characters of a code in the first plane of JIS X 0213. -/
def ofFirstPlane (edition : Edition) (code : Nat) : List Char :=
  if edition = .of2000 && addedIn2004.contains code then []
  else match (Table.jisx0208.get? code).or (Table.jisx0213First.get? code) with
    | some character => [character]
    | none => ((Table.jisx0213Pairs.lookup code).getD "").toList

/-- What a code in the first plane of JIS X 0213 stands for in a mixed text, where a code that is
added later is a fault as a whole. -/
def unitsOfFirstPlane (edition : Edition) (code : Nat) : Units :=
  if edition = .of2000 && addedIn2004.contains code then [none]
  else .ofChars (ofFirstPlane edition code)

/-- The character of a code in the second plane of JIS X 0213. The edition of 2004 changed one. -/
def ofSecondPlane (edition : Edition) (code : Nat) : Option Char :=
  if edition = .of2000 && code = 0x7D3B then some '鬝' else Table.jisx0213Second.get? code

def katakana? (byte : UInt8) : Option Char :=
  if 0xA1 ≤ byte && byte ≤ 0xDF then scalar? (0xFEC0 + byte.toNat) else none

def ofMarkedKatakana (code : Nat) : List Char := (katakana? (UInt8.ofNat code)).toList

def katakanaMark : UInt8 := 0x8E

/-- The mark of a supplementary character in the extended form. -/
def supplementMark : UInt8 := 0x8F

/-- One step in the extended form, from a byte that is not in ASCII, given what two bytes stand for,
and the characters of two bytes after a mark. -/
def stepExtended (units : Nat → Units) (supplement : Nat → Option Char) (first : UInt8)
    (rest : Bytes) : Step :=
  if first = katakanaMark then .double ofMarkedKatakana first rest
  else if first = supplementMark then
    match rest with
    | second :: third :: after =>
      match supplement ((second.toNat * 0x100 + third.toNat) ^^^ 0x8080) with
      | some character => .chars [character] after
      | none => .fault rest
    | _ => .unfinished
  else .doubleUnits (fun code => units (code ^^^ 0x8080)) first rest

/-- One step in the extended form of JIS X 0208 and 0212. -/
def stepEucJp : UInt8 → Bytes → Step :=
  stepExtended (fun code => .ofChars (ofJisx0208 code)) Table.jisx0212.get?

/-- What a code of the first plane stands for in the extended form, where a tilde is wide. -/
def unitsOfExtendedPlane (edition : Edition) (code : Nat) : Units :=
  if code = 0x2232 then [some (.char '～')] else unitsOfFirstPlane edition code

/-- One step in the extended form of JIS X 0213, in which JIS X 0212 fills the second plane. -/
def stepEucJis (edition : Edition) : UInt8 → Bytes → Step :=
  stepExtended (unitsOfExtendedPlane edition) fun code =>
    (ofSecondPlane edition code).or (Table.jisx0212.get? code)

/-- The row, counted from 0, and the column that the shifted form packs into two bytes. -/
def unshift? (code : Nat) : Option (Nat × Nat) :=
  let first := code / 0x100
  let second := code % 0x100
  if second < 0x40 || second = 0x7F || 0xFC < second then none
  else
    let pair := if first < 0xE0 then first - 0x81 else first - 0xC1
    let place := if second < 0x80 then second - 0x40 else second - 0x41
    some (2 * pair + place / 94, place % 94 + 0x21)

/-- Whether a byte may be the first of two in the shifted form. -/
def isShiftedLead (byte : UInt8) : Bool :=
  (0x81 ≤ byte && byte ≤ 0x9F) || (0xE0 ≤ byte && byte ≤ 0xFC)

/-- The characters of a code in the shifted form of JIS X 0208. -/
def ofShifted (code : Nat) : List Char :=
  match unshift? code with
  | some (row, column) => ofJisx0208 ((row + 0x21) * 0x100 + column)
  | none => []

/-- One step in a shifted form, given what two bytes stand for. -/
def stepShifted (units : Nat → Units) (first : UInt8) (rest : Bytes) : Step :=
  if isShiftedLead first then .doubleUnits units first rest
  else .char? (katakana? first) rest

/-- One step in the shifted form of JIS X 0208, from a byte that is not in ASCII. -/
def stepShiftJis : UInt8 → Bytes → Step := stepShifted fun code => .ofChars (ofShifted code)

/-- The characters of a code in the extension for personal computers. After the codes of characters
come some for private use. -/
def ofWindows932 (code : Nat) : List Char :=
  let first := code / 0x100
  match Table.windows932.get? code with
  | some character => [character]
  | none =>
    if first ≤ 0xEA then ofShifted code
    else match unshift? code with
      | some (row, column) =>
        if 0xF0 ≤ first && first ≤ 0xF9 then
          (scalar? (0xE000 + 94 * (row - 2 * (0xF0 - 0xC1)) + (column - 0x21))).toList
        else []
      | none => []

/-- One step in the extension for personal computers, from a byte that is not in ASCII. A few bytes
stand for characters that are not meant for use. -/
def stepWindows932 (first : UInt8) (rest : Bytes) : Step :=
  if first = 0x80 then .scalar 0x80 rest
  else if first = 0xA0 then .scalar 0xF8F0 rest
  else if 0xFD ≤ first then .scalar (0xF8F1 + (first.toNat - 0xFD)) rest
  else stepShifted (fun code => .ofChars (ofWindows932 code)) first rest

/-- The row of the second plane that a row of the shifted form beyond the first plane stands for. -/
def secondPlaneRow (row : Nat) : Nat :=
  if 0x67 ≤ row then row + 0x07
  else if 0x63 ≤ row || row = 0x5F then row - 0x37
  else row - 0x3D

/-- What a code stands for in the shifted form of JIS X 0213. -/
def unitsOfShifted (edition : Edition) (code : Nat) : Units :=
  match unshift? code with
  | none => []
  | some (row, column) =>
    if row < 0x5E then
      let code := (row + 0x21) * 0x100 + column
      if code = 0x2140 then [some (.char '\\')] else unitsOfFirstPlane edition code
    else .ofChars (ofSecondPlane edition (secondPlaneRow row * 0x100 + column)).toList

/-- The character that the Roman set of JIS X 0201 gives to a byte of ASCII. -/
def romanOf (byte : UInt8) : Char :=
  if byte = 0x5C then '¥' else if byte = 0x7E then '‾' else Char.ofNat byte.toNat

def stepShiftJis0213 (edition : Edition) (first : UInt8) (rest : Bytes) : Step :=
  if first < 0x80 then .chars [romanOf first] rest
  else stepShifted (unitsOfShifted edition) first rest

end Observance.Simulation.Charset

import Observance.Simulation.Charset.Step
import Observance.Simulation.Charset.Table.Big5
import Observance.Simulation.Charset.Table.Gb2312
import Observance.Simulation.Charset.Table.Gbk
import Observance.Simulation.Charset.Table.HongKong

/-! # Chinese character sets

Most sets use two bytes for a character that is not in ASCII, the first of them with its upper bit
set. GB 18030 also has codes of four bytes, and so all characters. In HZ, which has no upper bits, a
tilde and a brace begin and end Chinese text.
-/

namespace Observance.Simulation.Charset

open Observance.Text

/-- The bits that tell the bytes of a code in a mixed text from ASCII. -/
def upperBits : Nat := 0x8080

def ofGb2312 (code : Nat) : List Char := (Table.gb2312.get? (code ^^^ upperBits)).toList

def ofGbk (code : Nat) : List Char :=
  match code with
  | 0xA1A4 => ['·']
  | 0xA1AA => ['—']
  | 0xA844 => ['―']
  | _ => ((Table.gb2312.get? (code ^^^ upperBits)).or (Table.gbkExtension.get? code)).toList

/-- The characters of a code of two bytes in GB 18030. -/
def ofGb18030 (code : Nat) : List Char :=
  match ofGbk code with
  | [] => ((Table.gb18030Extension.get? code).or (Table.gb18030Private.get? code)).toList
  | found => found

/-- The character of four bytes in GB 18030, by their numbers in the ranges that they may have. -/
def ofGb18030Numbers (first second third fourth : Nat) : Option Char :=
  let number (first : Nat) : Nat := ((first * 10 + second) * 126 + third) * 10 + fourth
  if first < 4 then Table.gb18030Numbered.get? (number first)
  else if 15 ≤ first then scalar? (0x10000 + number (first - 15))
  else none

/-- One step in GB 18030 from a byte that is not in ASCII. -/
def stepGb18030 (first : UInt8) (rest : Bytes) : Step :=
  let isDigit (byte : UInt8) : Bool := 0x30 ≤ byte && byte ≤ 0x39
  let isUpper (byte : UInt8) : Bool := 0x81 ≤ byte && byte ≤ 0xFE
  match rest with
  | [] => .unfinished
  | second :: others =>
    if isDigit second then
      match others with
      | third :: fourth :: after =>
        let character :=
          if isUpper first && isUpper third && isDigit fourth then
            ofGb18030Numbers (first.toNat - 0x81) (second.toNat - 0x30) (third.toNat - 0x81)
              (fourth.toNat - 0x30)
          else none
        match character with
        | some character => .chars [character] after
        | none => .fault rest
      | _ => .unfinished
    else .double ofGb18030 first rest

/-- One step in HZ; the state says whether the text is Chinese. -/
def stepHz (isChinese : Bool) (byte : UInt8) (rest : Bytes) : Step × Bool :=
  if byte.toNat = '~'.toNat then
    match rest with
    | [] => (.unfinished, isChinese)
    | second :: after =>
      match isChinese, Char.ofNat second.toNat with
      | false, '~' => (.chars ['~'] after, false)
      | false, '\x7b' => (.silent after, true)
      | false, '\n' => (.silent after, false)
      | true, '\x7d' => (.silent after, false)
      | _, _ => (.fault rest, isChinese)
  else if 0x80 ≤ byte then (.fault rest, isChinese)
  else if isChinese then (.double (fun code => (Table.gb2312.get? code).toList) byte rest, true)
  else (.scalar byte.toNat rest, false)

def ofBig5 (code : Nat) : List Char := (Table.big5.get? code).toList

/-- The characters of a code in the common extension of Big5. -/
def ofBig5Windows (code : Nat) : List Char :=
  ((Table.big5Windows.get? code).or (Table.big5.get? code)).toList

/-- Whether the supplement of Hong Kong leaves a code as it is in Big5. -/
def isOutsideHongKong (code : Nat) : Bool := code < 0xC6A1 || 0xC900 ≤ code

def ofBig5HongKong (code : Nat) : List Char :=
  let common := if isOutsideHongKong code then Table.big5.get? code else none
  match common.or (Table.hongKong.get? code) with
  | some character => [character]
  | none => ((Table.hongKongPairs.lookup code).getD "").toList

end Observance.Simulation.Charset

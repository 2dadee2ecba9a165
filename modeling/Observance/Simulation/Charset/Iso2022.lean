import Observance.Simulation.Charset.Chinese
import Observance.Simulation.Charset.Japanese
import Observance.Simulation.Charset.Korean

/-! # Designated character sets

In ISO 2022 bytes have no upper bits, and what they stand for is said before. An escape sequence
designates a set to one of three places. The first place is in use; a shift takes the second into
use until it is taken back or the line ends, and an escape takes a single character from the third.
Variants differ in the sets that may be designated, and in whether they have shifts.
-/

namespace Observance.Simulation.Charset

open Observance.Text

/-- A set that can be designated. -/
inductive Designated where
  | ascii
  | latin
  | greek
  | roman
  | katakana
  | jisx0208
  | jisx0212
  | ksx1001
  | gb2312
  | firstPlane (edition : Edition)
  | secondPlane
deriving DecidableEq, Repr

namespace Designated

/-- Whether characters of a set have two bytes. -/
def isDouble : Designated → Bool
  | .ascii | .latin | .greek | .roman | .katakana => false
  | _ => true

/-- The characters of a byte in a set of one byte. Sets for single characters have none. -/
def ofByte (byte : UInt8) : Designated → Option Char
  | .ascii => some (Char.ofNat byte.toNat)
  | .roman => some (romanOf byte)
  | .katakana => katakana? (byte ^^^ 0x80)
  | _ => none

/-- The characters of a code in a set of two bytes. -/
def ofCode (code : Nat) : Designated → List Char
  | .jisx0208 => ofJisx0208 code
  | .jisx0212 => (Table.jisx0212.get? code).toList
  | .ksx1001 => (Table.ksx1001.get? code).toList
  | .gb2312 => (Table.gb2312.get? code).toList
  | .firstPlane edition => ofFirstPlane edition code
  | .secondPlane => (Table.jisx0213Second.get? code).toList
  | _ => []

/-- A single character from the third place, which is taken with its upper bit set. -/
def single? (byte : UInt8) : Designated → Option Char
  | .latin => if byte < 0x80 then scalar? (byte.toNat + 0x80) else none
  | .greek =>
    let upper := byte ^^^ 0x80
    if upper < 0xA0 then scalar? upper.toNat else greekOf? upper
  | .ascii => if byte < 0x80 then scalar? byte.toNat else none
  | _ => none
where
  /-- The character of a byte with its upper bit set in the Greek set. -/
  greekOf? (byte : UInt8) : Option Char :=
    let kept : List UInt8 := [0xA0, 0xA3, 0xA6, 0xA7, 0xA8, 0xA9, 0xAB, 0xAC, 0xAD, 0xB0, 0xB1,
      0xB2, 0xB3, 0xB7, 0xBB, 0xBD]
    let missing : List UInt8 := [0xA4, 0xA5, 0xAA, 0xAE, 0xD2, 0xFF]
    if kept.contains byte then scalar? byte.toNat
    else if byte = 0xA1 then some '‘'
    else if byte = 0xA2 then some '’'
    else if byte = 0xAF then some '―'
    else if missing.contains byte then none
    else scalar? (byte.toNat + 0x2D0)

end Designated

/-- A variant: the sets that may be designated, with the last character of their escape sequences,
and what else it has. -/
structure Iso2022 where
  sets : List (Char × Designated)
  hasShifts : Bool := false
  /-- Whether a sequence may announce a revision of JIS X 0208 and go on with its designation. -/
  hasRevisions : Bool := false
  hasThirdPlace : Bool := false
deriving Repr

namespace Iso2022

def korean : Iso2022 := { sets := [('C', .ksx1001)], hasShifts := true }

def japanese : Iso2022 :=
  { sets := [('B', .jisx0208), ('J', .roman), ('@', .jisx0208)], hasRevisions := true }

def japanese1 : Iso2022 := { japanese with sets := ('D', .jisx0212) :: japanese.sets }

/-- The variant for Japanese with the sets of other languages. -/
def japanese2 : Iso2022 :=
  { japanese with
    sets := [('C', .ksx1001), ('A', .gb2312), ('A', .latin), ('F', .greek)] ++ japanese1.sets
    hasThirdPlace := true }

def japaneseExtended : Iso2022 :=
  { japanese with sets := ('I', .katakana) :: japanese1.sets }

def japanesePlanes (edition : Edition) : Iso2022 :=
  let mark := match edition with
    | .of2000 => 'O'
    | .of2004 => 'Q'
  { japanese with sets := [('B', .jisx0208), (mark, .firstPlane edition), ('P', .secondPlane)] }

/-- The designated sets, whether a shift is in effect, and whether the text is in an escape sequence
that is passed on. -/
structure State where
  first : Designated := .ascii
  second : Designated := .ascii
  third : Designated := .ascii
  isShifted : Bool := false
  isPassing : Bool := false

def escape : UInt8 := 0x1B

def isLast (byte : UInt8) : Bool := 0x40 ≤ byte && byte ≤ 0x5A

def isDesignating (byte : UInt8) : Bool :=
  ['(', ')', '$', '.', '&'].contains (Char.ofNat byte.toNat)

/-- The most bytes that an escape sequence has, with the escape. -/
def longestSequence : Nat := 16

/-- The end of an escape sequence. -/
inductive SequenceEnd where
  /-- The number of bytes, with the escape. -/
  | found (size : Nat)
  | tooLong
  | unfinished

/-- Looks for the end of an escape sequence after some bytes of it. A sequence that only announces a
revision goes on with the one after it. -/
def sequenceEnd (hasRevisions : Bool) (size : Nat) : Bytes → SequenceEnd
  | [] => if longestSequence ≤ size then .tooLong else .unfinished
  | byte :: rest =>
    if longestSequence ≤ size then .tooLong
    else if isLast byte then .found (size + 1)
    else match rest with
      | next :: after =>
        if hasRevisions && byte = 0x26 && next = 0x40 then
          match after with
          | [] => if longestSequence ≤ size + 3 then .tooLong else .unfinished
          | _ :: others => sequenceEnd hasRevisions (size + 3) others
        else sequenceEnd hasRevisions (size + 1) (next :: after)
      | [] => if longestSequence ≤ size + 1 then .tooLong else .unfinished

/-- A place of designations. -/
inductive Place where
  | first
  | second
  | third

/-- What an escape sequence designates: whether it is a set of two bytes, the last character of the
sequence, and the place. -/
def designation? (variant : Iso2022) (sequence : List Char) : Option (Bool × Char × Place) :=
  match sequence with
  | ['$', mark] => some (true, mark, .first)
  | ['(', mark] => some (false, mark, .first)
  | [')', mark] => some (false, mark, .second)
  | ['.', mark] => if variant.hasThirdPlace then some (false, mark, .third) else none
  | ['$', '(', mark] => some (true, mark, .first)
  | ['$', ')', mark] => some (true, mark, .second)
  | [_, _, '\x1b', '$', 'B'] => if variant.hasRevisions then some (true, 'B', .first) else none
  | _ => none

/-- The set of a designation; ASCII may always be designated. -/
def setOf? (variant : Iso2022) (isDouble : Bool) (mark : Char) : Option Designated :=
  if !isDouble && mark = 'B' then some .ascii
  else (variant.sets.find? fun (other, set) => other = mark && set.isDouble = isDouble).map (·.2)

def State.put (state : State) (set : Designated) : Place → State
  | .first => { state with first := set }
  | .second => { state with second := set }
  | .third => { state with third := set }

/-- A step at an escape that begins a designation. A sequence that designates nothing is one fault.
-/
def stepDesignation (variant : Iso2022) (state : State) (rest : Bytes) : Step × State :=
  match sequenceEnd variant.hasRevisions 1 rest with
  | .unfinished => (.unfinished, state)
  | .tooLong => (.fault rest, state)
  | .found size =>
    let sequence := (rest.take (size - 1)).map fun byte => Char.ofNat byte.toNat
    let after := rest.drop (size - 1)
    let designated := do
      let (isDouble, mark, place) ← variant.designation? sequence
      return state.put (← variant.setOf? isDouble mark) place
    match designated with
    | some state => (.silent after, state)
    | none => (.fault after, state)

def stepEscape (variant : Iso2022) (state : State) (rest : Bytes) : Step × State :=
  match rest with
  | [] => (.unfinished, state)
  | second :: others =>
    if isDesignating second then variant.stepDesignation state rest
    else if variant.hasThirdPlace && second = 0x4E then
      match others with
      | [] => (.unfinished, state)
      | third :: after => (.char? (state.third.single? third) after, state)
    else (.scalar escape.toNat rest, { state with isPassing := true })

/-- A step in the set that is in use. A code without a character is one fault. -/
def stepDesignated (state : State) (byte : UInt8) (rest : Bytes) : Step :=
  let set := if state.isShifted then state.second else state.first
  if set.isDouble then
    match rest with
    | [] => .unfinished
    | second :: after =>
      match set.ofCode (byte.toNat * 0x100 + second.toNat) with
      | [] => .fault after
      | characters => .chars characters after
  else .char? (set.ofByte byte) rest

def step (variant : Iso2022) (state : State) (byte : UInt8) (rest : Bytes) : Step × State :=
  if state.isPassing then
    (.scalar byte.toNat rest, { state with isPassing := !isLast byte })
  else if byte = escape then variant.stepEscape state rest
  else if variant.hasShifts && byte = 0x0F then (.silent rest, { state with isShifted := false })
  else if variant.hasShifts && byte = 0x0E then (.silent rest, { state with isShifted := true })
  else if byte = 0x0A then (.chars ['\n'] rest, { state with isShifted := false })
  else if byte < 0x20 then (.scalar byte.toNat rest, state)
  else if 0x80 ≤ byte then (.fault rest, state)
  else (stepDesignated state byte rest, state)

def units (variant : Iso2022) (bytes : Bytes) : Units := unitsFrom variant.step {} bytes

end Iso2022

end Observance.Simulation.Charset

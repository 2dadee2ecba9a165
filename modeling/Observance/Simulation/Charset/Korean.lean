import Observance.Simulation.Charset.Step
import Observance.Simulation.Charset.Table.Ksx1001

/-! # Korean character sets

A syllable has an initial consonant, a vowel, and perhaps a final consonant, and the code points of
all syllables follow from theirs. KS X 1001 has the more usual syllables. The sets based on it spell
out the others, number them, or write the parts of every syllable into its code.
-/

namespace Observance.Simulation.Charset

open Observance.Text

def initials : List Char := "ㄱㄲㄴㄷㄸㄹㅁㅂㅃㅅㅆㅇㅈㅉㅊㅋㅌㅍㅎ".toList

def vowels : List Char := "ㅏㅐㅑㅒㅓㅔㅕㅖㅗㅘㅙㅚㅛㅜㅝㅞㅟㅠㅡㅢㅣ".toList

def finals : List Char := "ㄱㄲㄳㄴㄵㄶㄷㄹㄺㄻㄼㄽㄾㄿㅀㅁㅂㅄㅅㅆㅇㅈㅊㅋㅌㅍㅎ".toList

def firstSyllable : Nat := 0xAC00

def lastSyllable : Nat := 0xD7A3

/-- The syllable of parts with the given places; a final consonant has the place after its own,
because syllables without one come first. -/
def syllable (initial vowel final : Nat) : Option Char :=
  scalar? (firstSyllable + (initial * vowels.length + vowel) * (finals.length + 1) + final)

def placeOf? (letters : List Char) (letter : Char) : Option Nat :=
  if letters.contains letter then some (letters.idxOf letter) else none

/-- The letter that a byte stands for, after the one that begins every letter. -/
def letterOf? (byte : UInt8) : Option Char :=
  if 0xA1 ≤ byte then scalar? (0x3131 + (byte.toNat - 0xA1)) else none

def letterLead : UInt8 := 0xA4

def letterFiller : UInt8 := 0xD4

/-- The syllable that is spelled out by the bytes of its letters. -/
def spelledSyllable? (initial vowel final : UInt8) : Option Char := do
  let initial ← (letterOf? initial).bind (placeOf? initials)
  let vowel ← (letterOf? vowel).bind (placeOf? vowels)
  let final ←
    if final = letterFiller then some 0
    else ((letterOf? final).bind (placeOf? finals)).map (· + 1)
  syllable initial vowel final

def ofKsx1001 (code : Nat) : List Char := (Table.ksx1001.get? (code ^^^ 0x8080)).toList

/-- One step in the set in which other syllables are spelled out, from a byte that is not in
ASCII. -/
def stepEucKr (first : UInt8) (rest : Bytes) : Step :=
  if first = letterLead && rest.head? == some letterFiller then
    match rest with
    | _ :: a :: initial :: b :: vowel :: c :: final :: after =>
      let isSpelled := a = letterLead && b = letterLead && c = letterLead
      match if isSpelled then spelledSyllable? initial vowel final else none with
      | some character => .chars [character] after
      | none => .fault rest
    | _ => .unfinished
  else .double ofKsx1001 first rest

/-- The code points of the syllables in KS X 1001, which are in order. -/
def usualSyllables : List Nat :=
  (Table.ksx1001.flatMap (·.2.toList.map Char.toNat)).filter fun code =>
    firstSyllable ≤ code && code ≤ lastSyllable

/-- The code point that has a number of code points before it, from a first one on, without some,
which are in order. -/
def skipping (number : Nat) : List Nat → Nat
  | [] => number
  | code :: codes => if code ≤ number then skipping (number + 1) codes else number

/-- The place of a byte among those that may be second in a number. -/
def secondPlace? (byte : Nat) : Option Nat :=
  if 0x41 ≤ byte && byte ≤ 0x5A then some (byte - 0x41)
  else if 0x61 ≤ byte && byte ≤ 0x7A then some (byte - 0x61 + 26)
  else if 0x81 ≤ byte && byte ≤ 0xFE then some (byte - 0x81 + 52)
  else none

/-- The number of an unusual syllable: codes with a lower first byte have all second bytes, and
those from 161 on only the second bytes up to 160. -/
def syllableNumber? (code : Nat) : Option Nat := do
  let first := code / 0x100
  let place ← secondPlace? (code % 0x100)
  if 0x81 ≤ first && first ≤ 0xA0 then return (first - 0x81) * 178 + place
  else if 0xA1 ≤ first && first ≤ 0xC6 && place < 84 then
    return 32 * 178 + (first - 0xA1) * 84 + place
  else none

/-- How many syllables KS X 1001 does not have. -/
def unusualCount : Nat := lastSyllable - firstSyllable + 1 - usualSyllables.length

/-- The characters of a code in the set in which other syllables are numbered. -/
def ofUhc (code : Nat) : List Char :=
  match ofKsx1001 code with
  | [] =>
    match syllableNumber? code with
    | some number =>
      if number < unusualCount then
        (scalar? (skipping (firstSyllable + number) usualSyllables)).toList
      else []
    | none => []
  | found => found

/-- What five bits of a code of parts stand for: nothing at all, a part that is left out, or the
part of a place. -/
inductive Part where
  | invalid
  | filler
  | letter (place : Nat)

def initialPart (bits : Nat) : Part :=
  if bits = 1 then .filler
  else if 2 ≤ bits && bits ≤ 20 then .letter (bits - 2)
  else .invalid

/-- The vowel of five bits; of every eight numbers the first two are left out. -/
def vowelPart (bits : Nat) : Part :=
  if bits = 2 then .filler
  else if 3 ≤ bits && bits ≤ 29 && 2 ≤ bits % 8 then .letter (bits / 8 * 6 + bits % 8 - 3)
  else .invalid

def finalPart (bits : Nat) : Part :=
  if bits = 1 then .filler
  else if 2 ≤ bits && bits ≤ 17 then .letter (bits - 2)
  else if 19 ≤ bits && bits ≤ 29 then .letter (bits - 3)
  else .invalid

/-- The character of three parts: a syllable, a letter alone, or a wide blank. -/
def ofParts : Part → Part → Part → Option Char
  | .letter initial, .letter vowel, .letter final => syllable initial vowel (final + 1)
  | .letter initial, .letter vowel, .filler => syllable initial vowel 0
  | .letter initial, .filler, .filler => initials[initial]?
  | .filler, .letter vowel, .filler => vowels[vowel]?
  | .filler, .filler, .letter final => finals[final]?
  | .filler, .filler, .filler => some '\u3000'
  | _, _, _ => none

/-- The code in KS X 1001 of a character that is no syllable, of two bytes of which the second has
188 values. -/
def otherCode? (first second : Nat) : Option Nat :=
  let isSecond := 0x31 ≤ second && second ≤ 0xFE && second ≠ 0x7F &&
    !(0x80 ≤ second && second < 0x91)
  let isLetter := first = 0xDA && 0xA1 ≤ second && second ≤ 0xD3
  if first < 0xD9 || first = 0xDF || 0xF9 < first || !isSecond || isLetter then none
  else
    let row := if first < 0xE0 then 2 * first - 0x1B2 else 2 * first - 0x197
    let column := if second < 0x91 then second - 0x31 else second - 0x43
    some ((row + column / 94 + 0x21) * 0x100 + (column % 94 + 0x21))

/-- The characters of a code in the set in which a code has the parts of a syllable. -/
def ofJohab (code : Nat) : List Char :=
  if code < 0xD800 then
    (ofParts (initialPart (code / 0x400 % 0x20)) (vowelPart (code / 0x20 % 0x20))
      (finalPart (code % 0x20))).toList
  else ((otherCode? (code / 0x100) (code % 0x100)).bind Table.ksx1001.get?).toList

end Observance.Simulation.Charset

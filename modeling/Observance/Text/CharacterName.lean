import Observance.Text.CharacterName.Alias
import Observance.Text.CharacterName.Alphabets
import Observance.Text.CharacterName.EastAsian
import Observance.Text.CharacterName.Historic
import Observance.Text.CharacterName.Pictographs
import Observance.Text.CharacterName.Symbols

/-! # Character names

A character is found by its name. Most names stand in tables. The names of Korean syllables are
spelled from the names of their letters, and the names of ideographs end in their code point.
Names in tables are compared without regard to ASCII case, the others exactly.
-/

namespace Observance.Text

def piecesBetween (separator : Char → Bool) (text : List Char) : List (List Char) :=
  text.foldr (fun c pieces =>
    if separator c then [] :: pieces
    else match pieces with
      | [] => [[c]]
      | piece :: rest => (c :: piece) :: rest) [[]]

/-- The value of an upper-case hexadecimal digit. -/
def upperHexValue? (c : Char) : Option Nat :=
  if '0' ≤ c ∧ c ≤ '9' then some (c.toNat - '0'.toNat)
  else if 'A' ≤ c ∧ c ≤ 'F' then some (c.toNat - 'A'.toNat + 10)
  else none

/-- The number that upper-case hexadecimal digits write. -/
def upperHexNumber? (digits : List Char) : Option Nat :=
  digits.foldl (fun value? c => do return (← value?) * 16 + (← upperHexValue? c)) (some 0)

/-- One entry of a table of names: the code point, unless it follows the one before, the number of
words shared with the name before, and the other words. -/
structure NameEntry where
  code? : Option Nat
  shared : Nat
  words : List (List Char)
deriving Repr, DecidableEq

namespace NameEntry

/-- The number of shared words that a digit or a small letter stands for. -/
def sharedCount (c : Char) : Nat :=
  if 'a' ≤ c then c.toNat - 'a'.toNat + 10 else c.toNat - '0'.toNat

def ofText (text : List Char) : NameEntry :=
  let (code?, name) := match piecesBetween (· == '=') text with
    | [code, name] => (upperHexNumber? code, name)
    | _ => (none, text)
  match name with
  | [] => ⟨code?, 0, []⟩
  | first :: rest =>
    ⟨code?, sharedCount first, if rest.isEmpty then [] else piecesBetween (· == ' ') rest⟩

end NameEntry

/-- Finds a name, given as its words, in entries that follow a code point and its name. -/
def searchEntries (name : List (List Char)) :
    (code : Nat) → (before : List (List Char)) → List NameEntry → Option Nat
  | _, _, [] => none
  | code, before, entry :: rest =>
    let code := entry.code?.getD (code + 1)
    let words := before.take entry.shared ++ entry.words
    if words == name then some code else searchEntries name code words rest

/-- Whether a character stands between two entries of a table. -/
def isEntryEnd (c : Char) : Bool := c == ';' || c == '\n'

def searchNames (table : String) (name : List Char) : Option Nat :=
  searchEntries (piecesBetween (· == ' ') name) 0 []
    ((piecesBetween isEntryEnd table.toList).map NameEntry.ofText)

def searchFurtherNames (name : List Char) : Option Nat :=
  (piecesBetween isEntryEnd furtherNames.toList).findSome? fun entry =>
    match piecesBetween (· == '=') entry with
    | [code, further] => if further == name then upperHexNumber? code else none
    | _ => none

/-- Families of characters whose names end in a hyphen and their code point: the family's name and
the first and last code point of its runs. -/
def numberedFamilies : List (String × List (Nat × Nat)) := [
  ("CJK COMPATIBILITY IDEOGRAPH", [(0xF900, 0xFA6D), (0xFA70, 0xFAD9), (0x2F800, 0x2FA1D)]),
  ("KHITAN SMALL SCRIPT CHARACTER", [(0x18B00, 0x18CD5)]),
  ("NUSHU CHARACTER", [(0x1B170, 0x1B2FB)])]

/-- The unified ideographs, by the first and last code point of their runs. -/
def unifiedIdeographs : List (Nat × Nat) := [
  (0x3400, 0x4DBF), (0x4E00, 0x9FFF), (0x20000, 0x2A6DF), (0x2A700, 0x2B738), (0x2B740, 0x2B81D),
  (0x2B820, 0x2CEA1), (0x2CEB0, 0x2EBE0), (0x30000, 0x3134A)]

/-- Whether a code point lies in one of several runs. -/
def inRuns (runs : List (Nat × Nat)) (code : Nat) : Bool :=
  runs.any fun (first, last) => first ≤ code && code ≤ last

def after? (beginning : String) (text : List Char) : Option (List Char) :=
  if beginning.toList.isPrefixOf text then some (text.drop beginning.length) else none

/-- The code point written at the end of a name of a numbered family, without superfluous
zeros. -/
def numberedCode? (name : List Char) : Option Nat :=
  numberedFamilies.findSome? fun (family, runs) => do
    let digits ← after? (family ++ "-") name
    let code ← upperHexNumber? digits
    if inRuns runs code ∧ digits.length = (Nat.toDigits 16 code).length then some code else none

/-- The unified ideograph whose four or five digits follow the name of the family. -/
def ideographCode? (digits : List Char) : Option Nat := do
  let code ← upperHexNumber? digits
  if (digits.length = 4 ∨ digits.length = 5) ∧ inRuns unifiedIdeographs code then some code
  else none

/-- The names of the letters that may begin a Korean syllable, in order. -/
def initialLetters : List String :=
  ["G", "GG", "N", "D", "DD", "R", "M", "B", "BB", "S", "SS", "", "J", "JJ", "C", "K", "T", "P",
    "H"]

/-- The names of the vowels of a Korean syllable, in order. -/
def medialLetters : List String :=
  ["A", "AE", "YA", "YAE", "EO", "E", "YEO", "YE", "O", "WA", "WAE", "OE", "YO", "U", "WEO", "WE",
   "WI", "YU", "EU", "YI", "I"]

/-- The names of the letters that may end a Korean syllable, in order. -/
def finalLetters : List String :=
  ["", "G", "GG", "GS", "N", "NJ", "NH", "D", "L", "LG", "LM", "LB", "LS", "LT", "LP", "LH", "M",
   "B", "BS", "S", "SS", "NG", "J", "C", "K", "T", "P", "H"]

/-- The place of the longest of several letter names that a text begins with, and what follows
it. -/
def longestLetter? (letters : List String) (text : List Char) : Option (Nat × List Char) :=
  letters.zipIdx.foldl (fun best (letter, place) =>
    match after? letter text with
    | none => best
    | some rest =>
      if best.all fun (_, shortest) => rest.length < shortest.length then some (place, rest)
      else best) none

/-- The Korean syllable whose letters a text spells. -/
def syllableCode? (spelling : List Char) : Option Nat := do
  let (initial, rest) ← longestLetter? initialLetters spelling
  let (medial, rest) ← longestLetter? medialLetters rest
  let (final, rest) ← longestLetter? finalLetters rest
  if rest.isEmpty then
    some (0xAC00 + (initial * medialLetters.length + medial) * finalLetters.length + final)
  else none

def codeOfName? (name : List Char) : Option Nat :=
  match after? "HANGUL SYLLABLE " name, after? "CJK UNIFIED IDEOGRAPH-" name with
  | some spelling, _ => syllableCode? spelling
  | none, some digits => ideographCode? digits
  | none, none =>
    let capitals := name.map Char.toUpper
    (searchFurtherNames capitals <|> numberedCode? capitals) <|>
      [alphabetNames, symbolNames, pictographNames, eastAsianNames, historicNames].findSome?
        (searchNames · capitals)

end Observance.Text

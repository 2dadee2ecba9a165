import Observance.Json.Value
import Observance.Text.IntegerText
import Observance.Text.Place
import Observance.Text.Room

/-! # Reading JSON

The accepted texts are those of JSON with three further values, `NaN`, `Infinity` and `-Infinity`.
A name that a text gives twice in one object has its last value. A fault is located by the number
of characters that were left when it was met. Arrays and objects may lie in one another as deeply as
there is room for.
-/

namespace Observance.Json

open Observance.Text

/-- What is wrong with a text that is not JSON. -/
inductive Problem where
  | byteOrderMark
  | valueExpected
  | nameExpected
  | colonExpected
  | commaExpected
  | extraData
  | controlCharacter
  | unknownEscape
  | malformedCodeEscape
  | unterminatedText
deriving Repr, DecidableEq

def Problem.message : Problem → String
  | .byteOrderMark => "Unexpected UTF-8 BOM (decode using utf-8-sig)"
  | .valueExpected => "Expecting value"
  | .nameExpected => "Expecting property name enclosed in double quotes"
  | .colonExpected => "Expecting ':' delimiter"
  | .commaExpected => "Expecting ',' delimiter"
  | .extraData => "Extra data"
  | .controlCharacter => "Invalid control character at"
  | .unknownEscape => "Invalid \\escape"
  | .malformedCodeEscape => "Invalid \\uXXXX escape"
  | .unterminatedText => "Unterminated string starting at"

/-- The values that hold further ones. -/
inductive Container where
  | array
  | object
deriving Repr, DecidableEq

def Container.name : Container → String
  | array => "array"
  | object => "object"

/-- Why a text cannot be read. -/
inductive ReadError where
  /-- The text is not JSON; `left` characters remain from the place of the problem on. -/
  | malformed (problem : Problem) (left : Nat)
  /-- An integer has more digits than are converted. -/
  | number (error : IntegerError)
  /-- A value lies deeper than there is room for. -/
  | tooDeep (container : Container)
deriving Repr, DecidableEq

def ReadError.message (input : Text) : ReadError → Text
  | .malformed problem left =>
    let place := placeAt input (input.length - left)
    s!"{problem.message}: line {place.line} column {place.column} (char {place.offset})"
  | .number error => error.message
  | .tooDeep container =>
    s!"maximum recursion depth exceeded while decoding a JSON {container.name} from a unicode string"

def failAt (problem : Problem) (rest : Text) : Except ReadError α :=
  .error (.malformed problem rest.length)

/-- The blanks between the parts of a text. -/
def isSpace (c : CodePoint) : Bool := c == ' ' || c == '\t' || c == '\n' || c == '\r'

def skipSpace (input : Text) : Text := input.dropWhile isSpace

def hexCode? (a b c d : CodePoint) : Option Nat := do
  return (((← hexValue? a) * 16 + (← hexValue? b)) * 16 + (← hexValue? c)) * 16 + (← hexValue? d)

/-- The character that two halves of a pair stand for. -/
def charOfPair (high low : Nat) : CodePoint :=
  .ofNat (0x10000 + (high - 0xD800) * 0x400 + (low - 0xDC00))

def shortEscape? : CodePoint → Option CodePoint
  | '"' => some '"'
  | '\\' => some '\\'
  | '/' => some '/'
  | 'b' => some '\x08'
  | 'f' => some '\x0c'
  | 'n' => some '\n'
  | 'r' => some '\r'
  | 't' => some '\t'
  | _ => none

/-- The second half of a pair of codes: a further code escape with at least one character after
it. -/
def readLowHalf (input : Text) : Except ReadError (Option (Nat × Text)) :=
  match input with
  | '\\' :: 'u' :: a :: b :: c :: d :: next :: rest =>
    match hexCode? a b c d with
    | some code => .ok (some (code, next :: rest))
    | none => failAt .malformedCodeEscape input.tail
  | _ => .ok none

/-- A code escape, from its letter on: four hexadecimal digits with at least one character after
them; two escapes that form a pair give one character, and half of a pair is kept. -/
def readCodeEscape (input : Text) : Except ReadError (CodePoint × Text) :=
  match input with
  | _ :: a :: b :: c :: d :: next :: rest =>
    match hexCode? a b c d with
    | none => failAt .malformedCodeEscape input
    | some code =>
      if 0xD800 ≤ code && code ≤ 0xDBFF then
        match readLowHalf (next :: rest) with
        | .error error => .error error
        | .ok (some (low, after)) =>
          if 0xDC00 ≤ low && low ≤ 0xDFFF then .ok (charOfPair code low, after)
          else .ok (CodePoint.ofNat code, next :: rest)
        | .ok none => .ok (CodePoint.ofNat code, next :: rest)
      else .ok (CodePoint.ofNat code, next :: rest)
  | _ => failAt .malformedCodeEscape input

/-- An escape, from the character after its backslash on. A text that ends here is reported at its
opening quote, behind which `opening` follows. -/
def readEscape (opening input : Text) : Except ReadError (CodePoint × Text) :=
  match input with
  | [] => .error (.malformed .unterminatedText (opening.length + 1))
  | 'u' :: _ => readCodeEscape input
  | c :: rest =>
    match shortEscape? c with
    | some meaning => .ok (meaning, rest)
    | none => .error (.malformed .unknownEscape (input.length + 1))

theorem readLowHalf_length {input rest : Text} {code : Nat}
    (success : readLowHalf input = .ok (some (code, rest))) : rest.length < input.length := by
  unfold readLowHalf at success
  split at success
  · split at success
    · simp only [Except.ok.injEq, Option.some.injEq, Prod.mk.injEq] at success
      simp [← success.2]
    · simp [failAt] at success
  · simp at success

theorem readCodeEscape_length {input rest : Text} {c : CodePoint}
    (success : readCodeEscape input = .ok (c, rest)) : rest.length < input.length := by
  unfold readCodeEscape at success
  split at success
  · split at success
    · simp [failAt] at success
    · split at success
      · split at success
        · simp at success
        · rename_i low after found
          have shorter := readLowHalf_length found
          split at success <;>
            simp only [Except.ok.injEq, Prod.mk.injEq] at success <;>
            simp only [← success.2, List.length_cons] at * <;> omega
        · simp only [Except.ok.injEq, Prod.mk.injEq] at success
          simp only [← success.2, List.length_cons]
          omega
      · simp only [Except.ok.injEq, Prod.mk.injEq] at success
        simp only [← success.2, List.length_cons]
        omega
  · simp [failAt] at success

theorem readEscape_length {opening input rest : Text} {c : CodePoint}
    (success : readEscape opening input = .ok (c, rest)) : rest.length < input.length := by
  unfold readEscape at success
  split at success
  · simp at success
  · exact readCodeEscape_length success
  · split at success
    · simp only [Except.ok.injEq, Prod.mk.injEq] at success
      simp [← success.2]
    · simp at success

/-- The characters of a text value up to its closing quote; `opening` is all that follows its
opening quote. -/
def readCharacters (opening input : Text) : Except ReadError (Text × Text) :=
  match input with
  | [] => .error (.malformed .unterminatedText (opening.length + 1))
  | '"' :: rest => .ok ([], rest)
  | '\\' :: rest =>
    match _escaped : readEscape opening rest with
    | .error error => .error error
    | .ok (c, after) =>
      match readCharacters opening after with
      | .error error => .error error
      | .ok (characters, remaining) => .ok (c :: characters, remaining)
  | c :: rest =>
    if c < ' ' then failAt .controlCharacter input
    else match readCharacters opening rest with
      | .error error => .error error
      | .ok (characters, remaining) => .ok (c :: characters, remaining)
termination_by input.length
decreasing_by
  · have := readEscape_length _escaped
    simp only [List.length_cons]
    omega
  · simp

/-- A text value, from the character after its opening quote on. -/
def readText (input : Text) : Except ReadError (Text × Text) :=
  match readCharacters input input with
  | .error error => .error error
  | .ok (characters, rest) => .ok (characters, rest)

def spanDigits (input : Text) : Text × Text := input.span isAsciiDigit

/-- A fraction at the front: a point and at least one digit. -/
def splitFraction (input : Text) : Option Text × Text :=
  match input with
  | '.' :: rest =>
    let (digits, after) := spanDigits rest
    if digits.isEmpty then (none, input) else (some digits, after)
  | _ => (none, input)

/-- An exponent at the front: a letter, perhaps a sign, and at least one digit. -/
def splitExponent (input : Text) : Option Int × Text :=
  match input with
  | mark :: rest =>
    if mark == 'e' || mark == 'E' then
      let (negative, unsigned) := splitSign rest
      let (digits, after) := spanDigits unsigned
      if digits.isEmpty then (none, input)
      else
        let size : Int := digitsValue digits
        (some (if negative then -size else size), after)
    else (none, input)
  | [] => (none, input)

/-- The digits before the point: a zero alone, or digits that begin otherwise. -/
def splitWhole (input : Text) : Text × Text :=
  match input with
  | '0' :: rest => (['0'], rest)
  | _ => spanDigits input

def splitMinus (input : Text) : Bool × Text :=
  match input with
  | '-' :: rest => (true, rest)
  | _ => (false, input)

/-- A number. A sign with no digits after it is no number. -/
def readNumber (input : Text) : Except ReadError (Json × Text) :=
  let (negative, unsigned) := splitMinus input
  let (whole, afterWhole) := splitWhole unsigned
  if whole.isEmpty then failAt .valueExpected input
  else
    let (fraction, afterFraction) := splitFraction afterWhole
    let (exponent, rest) := splitExponent afterFraction
    if fraction.isNone && exponent.isNone then
      match digitsToNat whole with
      | .ok size => .ok (.integer (if negative then -(size : Int) else size), rest)
      | .error error => .error (.number error)
    else
      let decimals := fraction.getD []
      .ok (.real (.ofDecimal negative (digitsValue (whole ++ decimals))
        (exponent.getD 0 - decimals.length)), rest)

def words : List (Text × Json) :=
  [("null", .null), ("true", .bool true), ("false", .bool false),
    ("NaN", .real .nan), ("Infinity", .real (.infinite false)),
    ("-Infinity", .real (.infinite true))]

def readPlain (input : Text) : Except ReadError (Json × Text) :=
  match words.find? (·.1.isPrefixOf input) with
  | some (word, value) => .ok (value, input.drop word.length)
  | none => readNumber input

mutual

/-- A value at the front. `fuel` bounds the number of steps; a character uses up at most two, so
twice the number of characters and two more are enough. -/
def readValue : (room : Room) → (fuel : Nat) → (input : Text) → Except ReadError (Json × Text)
  | _, 0, input => failAt .valueExpected input
  | room, fuel + 1, input =>
    match input with
    | [] => failAt .valueExpected input
    | '"' :: rest =>
      match readText rest with
      | .error error => .error error
      | .ok (value, after) => .ok (.text value, after)
    | '{' :: rest =>
      match room.enter? 1 with
      | none => .error (.tooDeep .object)
      | some room =>
        match skipSpace rest with
        | '}' :: after => .ok (.object [], after)
        | inside =>
          match readFields room fuel [] inside with
          | .error error => .error error
          | .ok (fields, after) => .ok (.object fields, after)
    | '[' :: rest =>
      match room.enter? 1 with
      | none => .error (.tooDeep .array)
      | some room =>
        match skipSpace rest with
        | ']' :: after => .ok (.array [], after)
        | inside =>
          match readElements room fuel inside with
          | .error error => .error error
          | .ok (elements, after) => .ok (.array elements, after)
    | _ => readPlain input

/-- The fields of an object up to its closing brace, added to those read so far. -/
def readFields : (room : Room) → (fuel : Nat) → Fields → (input : Text) →
    Except ReadError (Fields × Text)
  | _, 0, _, input => failAt .valueExpected input
  | room, fuel + 1, fields, input =>
    match input with
    | '"' :: rest =>
      match readText rest with
      | .error error => .error error
      | .ok (name, afterName) =>
        match skipSpace afterName with
        | ':' :: afterColon =>
          match readValue room fuel (skipSpace afterColon) with
          | .error error => .error error
          | .ok (value, afterValue) =>
            match skipSpace afterValue with
            | '}' :: after => .ok (fields.put name value, after)
            | ',' :: after => readFields room fuel (fields.put name value) (skipSpace after)
            | rest => failAt .commaExpected rest
        | rest => failAt .colonExpected rest
    | _ => failAt .nameExpected input

/-- The elements of an array up to its closing bracket. -/
def readElements : (room : Room) → (fuel : Nat) → (input : Text) →
    Except ReadError (List Json × Text)
  | _, 0, input => failAt .valueExpected input
  | room, fuel + 1, input =>
    match readValue room fuel input with
    | .error error => .error error
    | .ok (element, afterElement) =>
      match skipSpace afterElement with
      | ']' :: after => .ok ([element], after)
      | ',' :: after =>
        match readElements room fuel (skipSpace after) with
        | .error error => .error error
        | .ok (elements, rest) => .ok (element :: elements, rest)
      | rest => failAt .commaExpected rest

end

/-- Reads characters as one value with blanks around it. -/
def readDocument (room : Room) (input : Text) : Except ReadError Json :=
  let inside := skipSpace input
  match readValue room (2 * inside.length + 2) inside with
  | .error error => .error error
  | .ok (value, after) =>
    let rest := skipSpace after
    if rest.isEmpty then .ok value else failAt .extraData rest

/-- Reads a whole text as one value with blanks around it. A byte order mark at its front is
refused. -/
def read (input : Text) (room : Room := none) : Except ReadError Json :=
  if input.head? == some (.char '\uFEFF') then failAt .byteOrderMark input
  else readDocument room input

end Observance.Json

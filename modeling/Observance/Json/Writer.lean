import Observance.Json.Value
import Observance.Text.IntegerText
import Observance.Text.Quoted

/-! # Writing JSON

A document is written on one line or with one line for each element. Text values escape the
quotation mark, the backslash and the control characters; a document of ASCII characters only
escapes every other character as well, one outside the first plane as a pair of codes.
-/

namespace Observance.Json

open Observance.Text

/-- How a document is laid out. -/
structure Layout where
  /-- The number of spaces for each level of nesting; `none` writes one line. -/
  indent : Option Nat
  /-- Whether characters outside ASCII are escaped. -/
  asciiOnly : Bool
deriving Repr, DecidableEq

def Layout.line : Layout := ⟨none, true⟩

def escapeUnit (code : Nat) : Text := '\\' :: 'u' :: paddedHex 4 code

/-- The escape of a code point: one code, or the two halves of a pair. -/
def escapeCodePoint (code : Nat) : Text :=
  if code < 0x10000 then escapeUnit code
  else
    let offset := code - 0x10000
    escapeUnit (0xD800 + offset / 0x400) ++ escapeUnit (0xDC00 + offset % 0x400)

def writeChar (asciiOnly : Bool) (c : CodePoint) : Text :=
  match c with
  | '"' => ['\\', '"']
  | '\\' => ['\\', '\\']
  | '\n' => ['\\', 'n']
  | '\r' => ['\\', 'r']
  | '\t' => ['\\', 't']
  | '\x08' => ['\\', 'b']
  | '\x0c' => ['\\', 'f']
  | c =>
    if c < ' ' || (asciiOnly && '~' < c) then escapeCodePoint c.toNat else [c]

/-- A text value with its quotation marks. -/
def writeText (asciiOnly : Bool) (value : Text) : Text :=
  .char '"' :: value.flatMap (writeChar asciiOnly) ++ [.char '"']

def writeInteger : Int → Text
  | .ofNat size => numeral 10 size
  | .negSucc size => '-' :: numeral 10 (size + 1)

/-- What stands before an element at some level of nesting. -/
def lineBreak (layout : Layout) (level : Nat) : Text :=
  match layout.indent with
  | none => []
  | some width => '\n' :: List.replicate (width * level) ' '

/-- What stands between two elements. -/
def separator (layout : Layout) (level : Nat) : Text :=
  match layout.indent with
  | none => [',', ' ']
  | some _ => ',' :: lineBreak layout level

mutual

/-- A value that stands at some level of nesting. -/
def writeValue (layout : Layout) (level : Nat) : Json → Text
  | .null => "null"
  | .bool true => "true"
  | .bool false => "false"
  | .integer value => writeInteger value
  | .real value => value.text "Infinity" "NaN"
  | .text value => writeText layout.asciiOnly value
  | .array [] => ['[', ']']
  | .array (element :: elements) =>
    .char '[' :: lineBreak layout (level + 1) ++ writeValue layout (level + 1) element ++
      writeElements layout (level + 1) elements ++ lineBreak layout level ++ [.char ']']
  | .object [] => ['{', '}']
  | .object ((name, value) :: fields) =>
    .char '{' :: lineBreak layout (level + 1) ++ writeText layout.asciiOnly name ++
      [.char ':', .char ' '] ++
      writeValue layout (level + 1) value ++
      writeFields layout (level + 1) fields ++ lineBreak layout level ++ [.char '}']

def writeElements (layout : Layout) (level : Nat) : List Json → Text
  | [] => []
  | element :: elements =>
    separator layout level ++ writeValue layout level element ++
      writeElements layout level elements

def writeFields (layout : Layout) (level : Nat) : List (Text × Json) → Text
  | [] => []
  | (name, value) :: fields =>
    separator layout level ++ writeText layout.asciiOnly name ++ [.char ':', .char ' '] ++
      writeValue layout level value ++ writeFields layout level fields

end

/-- The text of a value. -/
def write (layout : Layout) (value : Json) : Text := writeValue layout 0 value

def isReadableInteger (value : Int) : Bool :=
  (numeral 10 value.natAbs).length ≤ maxIntegerDigits

mutual

/-- Whether a value can be written: none of its integers has too many digits. -/
def isWritable : Json → Bool
  | .integer value => isReadableInteger value
  | .array elements => areWritable elements
  | .object fields => haveWritable fields
  | _ => true

def areWritable : List Json → Bool
  | [] => true
  | element :: elements => element.isWritable && areWritable elements

/-- Whether the values of fields can be written. -/
def haveWritable : List (Text × Json) → Bool
  | [] => true
  | (_, value) :: fields => value.isWritable && haveWritable fields

end

mutual

/-- The same value with the fields of every object in the order of their names. -/
def sortNames : Json → Json
  | .array elements => .array (sortNamesOfElements elements)
  | .object fields =>
    .object ((sortNamesOfFields fields).mergeSort fun a b => decide (a.1 ≤ b.1))
  | value => value

/-- The elements of an array with the names in them in order. -/
def sortNamesOfElements : List Json → List Json
  | [] => []
  | element :: elements => sortNames element :: sortNamesOfElements elements

/-- The fields of an object with the names in their values in order. -/
def sortNamesOfFields : List (Text × Json) → List (Text × Json)
  | [] => []
  | (name, value) :: fields => (name, sortNames value) :: sortNamesOfFields fields

end

end Observance.Json

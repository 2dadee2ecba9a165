import Observance.Json.Writer
import Observance.Text.Quoted

/-! # Values in messages

Messages show a value in a form of their own: texts in quotes as `Text.Quoted` has them, lists and
mappings on one line, and the constants with a capital. A text that is a message's whole value
stands there without quotes.
-/

namespace Observance.Json

open Observance.Text

mutual

/-- A value as a message shows it inside other values. -/
def displayNested : Json → Text
  | .null => "None"
  | .bool true => "True"
  | .bool false => "False"
  | .integer value => writeInteger value
  | .real value => value.text "inf" "nan"
  | .text value => quote value
  | .array [] => ['[', ']']
  | .array (element :: elements) =>
    .char '[' :: displayNested element ++ displayElements elements ++ [.char ']']
  | .object [] => ['{', '}']
  | .object ((name, value) :: fields) =>
    .char '{' :: quote name ++ [.char ':', .char ' '] ++ displayNested value
      ++ displayFields fields ++ [.char '}']

def displayElements : List Json → Text
  | [] => []
  | element :: elements =>
    [.char ',', .char ' '] ++ displayNested element ++ displayElements elements

def displayFields : List (Text × Json) → Text
  | [] => []
  | (name, value) :: fields =>
    [.char ',', .char ' '] ++ quote name ++ [.char ':', .char ' '] ++ displayNested value ++
      displayFields fields

end

/-- A value as a message shows it, with quotes around a text. -/
def displayQuoted (value : Json) : Text := displayNested value

def display : Json → Text
  | .text value => value
  | value => value.displayQuoted

/-- What a message calls the type of a value. -/
def typeName : Json → String
  | .null => "NoneType"
  | .bool _ => "bool"
  | .integer _ => "int"
  | .real _ => "float"
  | .text _ => "str"
  | .array _ => "list"
  | .object _ => "dict"

end Observance.Json

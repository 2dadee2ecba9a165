import Observance.Json.Display
import Observance.Log.Number
import Observance.Text.Case
import Observance.Text.Digit

/-! # Message templates

A message may be a template into which values are put. A place for a value is a percent sign,
perhaps a name in parentheses, flags, a width, a precision, and a letter that says how the value is
written. Without names the values are taken in their order, and all of them have to be used. A name
puts the value under it in the place of all values.
-/

namespace Observance.Log

open Observance.Text

/-- Why a template cannot be filled. -/
inductive TemplateError where
  | tooFewValues
  | tooManyValues
  | incomplete
  | incompleteName
  | mappingExpected
  | unknownName (name : Text)
  | nameOfList
  | unknownLetter (letter : CodePoint) (index : Nat)
  | starNotInteger
  | realExpected (letter : CodePoint) (given : String)
  | integerExpected (letter : CodePoint) (given : String)
  | numberExpected (given : String)
  | characterExpected
  | characterOutOfRange
  | infiniteInteger
  | noInteger
  | integerTooLarge
  | widthTooLarge
  | precisionTooLarge
  | starWidthTooLarge
  | starPrecisionTooLarge
  | digitsTooMany
  | outOfMemory
deriving Repr, DecidableEq

namespace TemplateError

/-- The wording of an error. -/
def message : TemplateError → Text
  | .tooFewValues => "not enough arguments for format string"
  | .tooManyValues => "not all arguments converted during string formatting"
  | .incomplete => "incomplete format"
  | .incompleteName => "incomplete format key"
  | .mappingExpected => "format requires a mapping"
  | .unknownName name => quote name
  | .nameOfList => "list indices must be integers or slices, not str"
  | .unknownLetter letter index =>
    let shown := if 31 ≤ letter.toNat ∧ letter.toNat ≤ 126 then letter else '?'
    "unsupported format character '" ++ [shown] ++ "' (0x" ++ paddedHex 0 letter.toNat ++
      s!") at index {index}"
  | .starNotInteger => "* wants int"
  | .realExpected letter given =>
    "%" ++ [letter] ++ s!" format: a real number is required, not {given}"
  | .integerExpected letter given =>
    "%" ++ [letter] ++ s!" format: an integer is required, not {given}"
  | .numberExpected given => s!"must be real number, not {given}"
  | .characterExpected => "%c requires int or char"
  | .characterOutOfRange => "%c arg not in range(0x110000)"
  | .infiniteInteger => "cannot convert float infinity to integer"
  | .noInteger => "cannot convert float NaN to integer"
  | .integerTooLarge => "int too large to convert to float"
  | .widthTooLarge => "width too big"
  | .precisionTooLarge => "precision too big"
  | .starWidthTooLarge => "Python int too large to convert to C ssize_t"
  | .starPrecisionTooLarge => "Python int too large to convert to C int"
  | .digitsTooMany => "precision too large"
  | .outOfMemory => ""

/-- The name of an error's kind in reports. -/
def kind : TemplateError → String
  | .incomplete | .incompleteName | .unknownLetter .. | .noInteger | .widthTooLarge
  | .precisionTooLarge => "ValueError"
  | .unknownName _ => "KeyError"
  | .characterOutOfRange | .infiniteInteger | .integerTooLarge | .starWidthTooLarge
  | .starPrecisionTooLarge | .digitsTooMany => "OverflowError"
  | .outOfMemory => "MemoryError"
  | _ => "TypeError"

end TemplateError

def mostWidth : Nat := Nat.pow 2 63 - 1

def mostPrecision : Nat := Nat.pow 2 31 - 1

/-- The greatest number of digits of an integer that are written. -/
def mostDigits : Nat := mostPrecision - 3

def mostMemory : Nat := Nat.pow 2 36

/-- How a value is written at its place. -/
structure Style where
  leftAligned : Bool := false
  signed : Bool := false
  spaced : Bool := false
  alternate : Bool := false
  zeroPadded : Bool := false
  width : Nat := 0
  precision : Option Nat := none
deriving Repr, DecidableEq

namespace Style

/-- A style with one more flag; none if the character is no flag. -/
def withFlag? (style : Style) : CodePoint → Option Style
  | '-' => some { style with leftAligned := true }
  | '+' => some { style with signed := true }
  | ' ' => some { style with spaced := true }
  | '#' => some { style with alternate := true }
  | '0' => some { style with zeroPadded := true }
  | _ => none

def pad (style : Style) (text : Text) : Text :=
  let blanks := List.replicate (style.width - text.length) (.char ' ')
  if style.leftAligned then text ++ blanks else blanks ++ text

/-- A text of at most as many characters as the precision, padded to the width. -/
def padText (style : Style) (text : Text) : Text :=
  style.pad (match style.precision with
    | some length => text.take length
    | none => text)

def sign (style : Style) (negative : Bool) : Text :=
  if negative then ['-'] else if style.signed then ['+'] else if style.spaced then [' '] else []

/-- A number from what stands before its digits, and its digits, padded to the width. -/
def padNumber (style : Style) (mark digits : Text) : Text :=
  if style.zeroPadded && !style.leftAligned then
    mark ++ List.replicate (style.width - mark.length - digits.length) (.char '0') ++ digits
  else style.pad (mark ++ digits)

def integer (style : Style) (value : Int) (mark digits : Text) : Text :=
  let shortfall := (style.precision.getD 0) - digits.length
  style.padNumber (style.sign (value < 0) ++ if style.alternate then mark else [])
    (List.replicate shortfall (.char '0') ++ digits)

end Style

/-- An integer that a value counts as; the fraction of other numbers is dropped. -/
def truncated (letter : CodePoint) : Json → Except TemplateError Int
  | .integer value => .ok value
  | .bool value => .ok value.toNat
  | .real (.finite negative significand exponent) =>
    let (numerator, denominator) := Binary64.ratio significand exponent
    let size : Int := (numerator / denominator : Nat)
    .ok (if negative then -size else size)
  | .real (.infinite _) => .error .infiniteInteger
  | .real .nan => .error .noInteger
  | value => .error (.realExpected letter value.typeName)

def whole (letter : CodePoint) : Json → Except TemplateError Int
  | .integer value => .ok value
  | .bool value => .ok value.toNat
  | value => .error (.integerExpected letter value.typeName)

def real : Json → Except TemplateError Binary64
  | .integer value =>
    match Binary64.ofDecimal (value < 0) value.natAbs 0 with
    | .infinite _ => .error .integerTooLarge
    | number => .ok number
  | .bool value => .ok (.ofDecimal false value.toNat 0)
  | .real value => .ok value
  | value => .error (.numberExpected value.typeName)

/-- A number with a precision, by the letter of its notation in small letters. -/
def realText (style : Style) (letter : CodePoint) (value : Binary64) : Text :=
  let precision := style.precision.getD 6
  match value with
  | .nan => style.padNumber (style.sign false) "nan"
  | .infinite negative => style.padNumber (style.sign negative) "inf"
  | .finite negative significand exponent =>
    let (numerator, denominator) := Binary64.ratio significand exponent
    let digits :=
      if letter == 'f' then fixedText numerator denominator precision style.alternate
      else if letter == 'e' then scientificText significand exponent precision style.alternate
      else generalText significand exponent precision style.alternate
    style.padNumber (style.sign negative) digits

def asciiOnly (text : Text) : Text :=
  text.flatMap fun c => if c.toNat < 128 then [c] else escapeCode c.toNat

/-- An integer, unless its precision asks for more digits than are written. -/
def integerText (style : Style) (value : Int) (mark digits : Text) :
    Except TemplateError Text :=
  if style.precision.getD 0 > mostDigits then .error .digitsTooMany
  else .ok (style.integer value mark digits)

/-- A value written as a letter says. -/
def writeAs (style : Style) (letter : CodePoint) (index : Nat) (value : Json) :
    Except TemplateError Text :=
  let isCapital : Bool := 'A' ≤ letter && letter ≤ 'Z'
  let capitals (text : Text) : Text := if isCapital then text.map asciiUpper else text
  match letter with
  | 's' => .ok (style.padText value.display)
  | 'r' => .ok (style.padText value.displayNested)
  | 'a' => .ok (style.padText (asciiOnly value.displayNested))
  | 'd' | 'i' | 'u' => do
    let value ← truncated letter value
    integerText style value [] (numeral 10 value.natAbs)
  | 'x' | 'X' => do
    let value ← whole letter value
    return capitals (← integerText style value ['0', 'x'] (numeral 16 value.natAbs))
  | 'o' => do
    let value ← whole letter value
    integerText style value ['0', 'o'] (numeral 8 value.natAbs)
  | 'c' =>
    match value with
    | .text text =>
      if text.length = 1 then .ok (style.pad text) else .error .characterExpected
    | .integer code =>
      if 0 ≤ code ∧ code < 0x110000 then .ok (style.pad [.ofNat code.toNat])
      else .error .characterOutOfRange
    | .bool value => .ok (style.pad [.ofNat value.toNat])
    | _ => .error .characterExpected
  | 'f' | 'F' | 'e' | 'E' | 'g' | 'G' => do
    return capitals (realText style (asciiLower letter) (← real value))
  | _ => .error (.unknownLetter letter index)

/-- The values that are put into a template: those not yet used, and what names refer to, if there
is such a thing. With names no value has to be used. -/
structure Values where
  pending : List Json
  source : Option Json
deriving Repr

namespace Values

def ofList (values : List Json) : Values := ⟨values, none⟩

/-- A value of its own. Names refer to the fields of an object; an array is no place to look for
names, but counts as one. -/
def ofValue (value : Json) : Values :=
  ⟨[value], match value with
    | .array _ | .object _ => some value
    | _ => none⟩

/-- The next value, and the values after it. -/
def next (values : Values) : Except TemplateError (Json × Values) :=
  match values.pending with
  | value :: rest => .ok (value, { values with pending := rest })
  | [] => .error .tooFewValues

/-- Whether values are left that should have been used. -/
def areLeft (values : Values) : Bool := values.source.isNone && !values.pending.isEmpty

def named (values : Values) (name : Text) : Except TemplateError Values :=
  match values.source with
  | some (.object fields) =>
    match Fields.get? fields name with
    | some value => .ok { values with pending := [value] }
    | none => .error (.unknownName name)
  | some _ => .error .nameOfList
  | none => .error .mappingExpected

end Values

/-- Reads a name up to the parenthesis that closes it, inside of which others may be nested. -/
def readName (depth : Nat) (name : Text) : Text → Option (Text × Text)
  | [] => none
  | ')' :: rest =>
    if depth = 0 then some (name.reverse, rest) else readName (depth - 1) (')' :: name) rest
  | '(' :: rest => readName (depth + 1) ('(' :: name) rest
  | c :: rest => readName depth (c :: name) rest

def readFlags (style : Style) : Text → Style × Text
  | [] => (style, [])
  | c :: rest =>
    match style.withFlag? c with
    | some style => readFlags style rest
    | none => (style, c :: rest)

def readDigits (most : Nat) (tooLarge : TemplateError) (text : Text) :
    Except TemplateError (Option Nat × Text) :=
  let digits := text.takeWhile isAsciiDigit
  let value := digitsValue digits
  if value > most then .error tooLarge
  else .ok (if digits.isEmpty then none else some value, text.dropWhile isAsciiDigit)

def starValue (values : Values) : Except TemplateError (Int × Values) := do
  match ← values.next with
  | (.integer value, values) => return (value, values)
  | (.bool value, values) => return (value.toNat, values)
  | _ => throw .starNotInteger

/-- Reads a width: digits, or a star, which takes the next value. A negative one asks for blanks on
the right. -/
def readWidth (style : Style) (values : Values) :
    Text → Except TemplateError (Style × Values × Text)
  | '*' :: rest => do
    let (width, values) ← starValue values
    if width.natAbs > mostWidth then throw .starWidthTooLarge
    return ({ style with width := width.natAbs, leftAligned := style.leftAligned || width < 0 },
      values, rest)
  | text => do
    let (width, rest) ← readDigits mostWidth .widthTooLarge text
    return ({ style with width := width.getD 0 }, values, rest)

/-- Reads a precision: a point and then digits, a star, which takes the next value, or nothing. A
negative precision is none at all but zero. -/
def readPrecision (style : Style) (values : Values) :
    Text → Except TemplateError (Style × Values × Text)
  | '.' :: '*' :: rest => do
    let (precision, values) ← starValue values
    if precision > mostPrecision ∨ precision < -(mostPrecision : Int) - 1 then
      throw .starPrecisionTooLarge
    return ({ style with precision := some precision.toNat }, values, rest)
  | '.' :: text => do
    let (precision, rest) ← readDigits mostPrecision .precisionTooLarge text
    return ({ style with precision := some (precision.getD 0) }, values, rest)
  | text => .ok (style, values, text)

def readNamed (values : Values) : Text → Except TemplateError (Values × Text)
  | '(' :: rest => do
    if values.source.isNone then throw .mappingExpected
    match readName 0 [] rest with
    | none => throw .incompleteName
    | some (name, rest) => return (← values.named (name), rest)
  | text => .ok (values, text)

/-- A text without a letter in front that says how wide a value is, which makes no difference. -/
def dropSize : Text → Text
  | [] => []
  | c :: rest => if c == 'h' || c == 'l' || c == 'L' then rest else c :: rest

/-- Fills one place, from the character after its percent sign on; `length` is the length of the
whole template. -/
def fillPlace (length : Nat) (values : Values) (text : Text) :
    Except TemplateError (Text × Values × Text) := do
  let (values, text) ← readNamed values text
  let (style, text) := readFlags {} text
  let (style, values, text) ← readWidth style values text
  let (style, values, text) ← readPrecision style values text
  match dropSize text with
  | [] => throw .incomplete
  | letter :: rest =>
    let (value, values) ← values.next
    let written ← writeAs { style with width := min style.width mostMemory } letter
      (length - rest.length - 1) value
    if style.width > mostMemory then throw .outOfMemory
    return (written, values, rest)

/-- Fills the places of a template; `fuel` bounds the number of its parts, and its length is
enough. Two percent signs stand for one. -/
def fillFrom (length : Nat) : (fuel : Nat) → Values → Text → Except TemplateError Text
  | 0, _, _ => .ok []
  | fuel + 1, values, text =>
    match text with
    | [] => if values.areLeft then .error .tooManyValues else .ok []
    | '%' :: '%' :: rest => do
      return '%' :: (← fillFrom length fuel values rest)
    | '%' :: rest => do
      let (filled, values, rest) ← fillPlace length values rest
      return filled ++ (← fillFrom length fuel values rest)
    | c :: rest => do
      return c :: (← fillFrom length fuel values rest)

def fill (template : Text) (values : Values) : Except TemplateError Text :=
  fillFrom template.length (template.length + 1) values template

/-- What a message is given to put into its template: nothing, values one after another, or a value
of its own. -/
def Values.ofArguments? : List Json → Option Values
  | [] => none
  | [.object (field :: fields)] => some (.ofValue (.object (field :: fields)))
  | values => some (.ofList values)

end Observance.Log

import Observance.Text.Printable

/-! # Quoted texts

Messages show a text in quotes so that its ends, its blanks and its invisible characters can be
seen. Single quotes are used unless the text holds a single quote and no double one; the quote in
use and the backslash are escaped, line breaks and tabs have short escapes, and every other
character that is not printable appears by its code point.
-/

namespace Observance.Text

/-- A number in lower-case hexadecimal, padded with zeros to at least `width`. -/
def paddedHex (width value : Nat) : Text :=
  let digits := numeral 16 value
  List.replicate (width - digits.length) (.char '0') ++ digits

/-- A code point as an escape: two, four or eight hexadecimal digits, as few as hold it. -/
def escapeCode (code : Nat) : Text :=
  if code < 0x100 then '\\' :: 'x' :: paddedHex 2 code
  else if code < 0x10000 then '\\' :: 'u' :: paddedHex 4 code
  else '\\' :: 'U' :: paddedHex 8 code

def quoteChar (mark c : CodePoint) : Text :=
  if c == mark || c == '\\' then ['\\', c]
  else if c == '\n' then ['\\', 'n']
  else if c == '\r' then ['\\', 'r']
  else if c == '\t' then ['\\', 't']
  else if isPrintable c then [c]
  else escapeCode c.toNat

/-- The quotation mark for a text: double only where that saves escaping. -/
def quotationMark (text : Text) : CodePoint :=
  if text.contains '\'' && !text.contains '"' then '"' else '\''

def quote (text : Text) : Text :=
  let mark := quotationMark text
  mark :: text.flatMap (quoteChar mark) ++ [mark]

end Observance.Text

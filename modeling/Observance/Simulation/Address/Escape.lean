import Observance.Text.Case
import Observance.Text.Digit
import Observance.Text.Letter
import Observance.Text.Quoted
import Observance.Text.Utf8

/-! # Escapes

An address holds few characters as they are. Any other is given by its bytes, each as a percent sign
and two hexadecimal digits. A percent sign that escapes nothing has to be escaped itself, but
whether it does escape something is a matter of the text as a whole.
-/

namespace Observance.Simulation.Address

open Observance.Text

def isUnreserved (c : CodePoint) : Bool :=
  (isAsciiLetter c || isAsciiDigit c) || ("-._~" : Text).contains c

def isUserChar (c : CodePoint) : Bool := isUnreserved c || ("!$&'()*+,;=:" : Text).contains c

def isPathChar (c : CodePoint) : Bool := isUserChar c || c == '@' || c == '/'

def isQueryChar (c : CodePoint) : Bool := isPathChar c || c == '?'

/-- The characters with a meaning anywhere in an address, a percent sign apart. -/
def isAddressChar (c : CodePoint) : Bool := isQueryChar c || ("#[]" : Text).contains c

def isHexDigit (c : CodePoint) : Bool := (hexValue? c).isSome

def escapeByte (byte : UInt8) : Text := '%' :: (paddedHex 2 byte.toNat).map asciiUpper

/-- A text whose characters are escaped unless they are allowed. -/
def escapeUnless (isAllowed : CodePoint → Bool) (text : Text) : Text :=
  text.flatMap fun c => if isAllowed c then [c] else (Utf8.encode [c]).flatMap escapeByte

/-- Whether every percent sign of a text escapes a byte. -/
def isEscaped : Text → Bool
  | '%' :: a :: b :: rest => isHexDigit a && isHexDigit b && isEscaped rest
  | c :: rest => c != '%' && isEscaped rest
  | [] => true

/-- A text whose escapes have capital digits. -/
def upperEscapes : Text → Text
  | '%' :: a :: b :: rest =>
    if isHexDigit a && isHexDigit b then '%' :: asciiUpper a :: asciiUpper b :: upperEscapes rest
    else '%' :: upperEscapes (a :: b :: rest)
  | c :: rest => c :: upperEscapes rest
  | [] => []

/-- A part of an address in its usual form: escapes stay if there are no other percent signs. -/
def usualForm (isAllowed : CodePoint → Bool) (text : Text) : Text :=
  let text := upperEscapes text
  let keepsEscapes := isEscaped text
  escapeUnless (fun c => isAllowed c || (c == '%' && keepsEscapes)) text

def unescapedBytes : Text → Bytes
  | '%' :: a :: b :: rest =>
    match hexValue? a, hexValue? b with
    | some high, some low => UInt8.ofNat (16 * high + low) :: unescapedBytes rest
    | _, _ => Utf8.encode [.char '%'] ++ unescapedBytes (a :: b :: rest)
  | c :: rest => Utf8.encode [c] ++ unescapedBytes rest
  | [] => []

def unescape (text : Text) : Text := Utf8.decodeReplacing (unescapedBytes text)

def isLetterOrNumber (c : CodePoint) : Bool := isWordCode c.toNat && c != '_'

/-- A text without the escapes of characters that need none. There is none if letters or numbers
that are no hexadecimal digits follow a percent sign. -/
def spareEscapes? : Text → Option Text
  | '%' :: a :: b :: rest =>
    if isLetterOrNumber a && isLetterOrNumber b then
      match hexValue? a, hexValue? b with
      | some high, some low =>
        let c := CodePoint.ofNat (16 * high + low)
        (spareEscapes? rest).map fun spared =>
          if isUnreserved c then c :: spared else '%' :: a :: b :: spared
      | _, _ => none
    else (spareEscapes? (a :: b :: rest)).map ('%' :: ·)
  | c :: rest => (spareEscapes? rest).map (c :: ·)
  | [] => some []

/-- An address as it is sent: with as few escapes as possible, and with percent signs escaped only
if one of them escapes nothing. -/
def escapeWhole (address : Text) : Text :=
  match spareEscapes? address with
  | some spared => escapeUnless (fun c => isAddressChar c || c == '%') spared
  | none => escapeUnless isAddressChar address

end Observance.Simulation.Address

import Observance.Text.Blank
import Observance.Text.Split
import Observance.Simulation.Address.Error
import Observance.Simulation.Address.Escape
import Observance.Simulation.HostName.Label

/-! # Hosts

A host is a name, four numbers between points, or up to eight hexadecimal numbers between colons.
The last kind stands in brackets; a run of zeros in it may be left out, and it may end with a zone.
-/

namespace Observance.Simulation.Address

open Observance.Text

/-- Whether a text consists of some of the given characters, between one and `most`. -/
def isNumber (isDigit : CodePoint → Bool) (most : Nat) (text : Text) : Bool :=
  !text.isEmpty && text.length ≤ most && text.all isDigit

def isFourNumbers (text : Text) : Bool :=
  let parts := splitAt (.char '.') text
  parts.length == 4 && parts.all (isNumber isAsciiDigit 3)

/-- How many numbers some parts between colons stand for, if they are numbers. The last one may be
four small numbers, which count as two. -/
def countNumbers? (allowsFour : Bool) : List Text → Option Nat
  | [] => some 0
  | [part] =>
    if isNumber isHexDigit 4 part then some 1
    else if allowsFour && isFourNumbers part then some 2
    else none
  | part :: parts =>
    if isNumber isHexDigit 4 part then (countNumbers? allowsFour parts).map (· + 1) else none

/-- The parts of a text before and after the first two colons in a row. -/
def cutAtGap? : Text → Option (Text × Text)
  | ':' :: ':' :: rest => some ([], rest)
  | c :: rest => (cutAtGap? rest).map fun (before, after) => (c :: before, after)
  | [] => none

/-- The numbers that a text stands for, none of them if it is empty. -/
def countAll? (allowsFour : Bool) (text : Text) : Option Nat :=
  if text.isEmpty then some 0 else countNumbers? allowsFour (splitAt (.char ':') text)

/-- Whether a text is eight numbers between colons, or fewer around a gap. -/
def isEightNumbers (text : Text) : Bool :=
  match cutAtGap? text with
  | none => countNumbers? true (splitAt (.char ':') text) == some 8
  | some (before, after) =>
    match countAll? false before, countAll? true after with
    | some first, some last => first + last ≤ 7
    | _, _ => false

/-- Whether a text is a zone: a percent sign, and characters or escapes behind it. -/
def isZone (text : Text) : Bool :=
  let isName (name : Text) : Bool :=
    !name.isEmpty && isEscaped name && name.all fun c => isUnreserved c || c == '%'
  match text with
  | '%' :: '2' :: '5' :: name => isName name || isName ('2' :: '5' :: name)
  | '%' :: name => isName name
  | _ => false

/-- Whether a text without its brackets is a host of numbers between colons. -/
def isBracketed (text : Text) : Bool :=
  let zone := text.dropWhile (· != .char '%')
  isEightNumbers (text.takeWhile (· != .char '%')) && (zone.isEmpty || isZone zone)

def isName (text : Text) : Bool :=
  isEscaped text && !text.any ("[]:/?#" : Text).contains

/-- A port after a colon, if there is any; leading zeros do not count. A line may end behind it. -/
def readPort? (text : Text) : Option (Option Nat) :=
  match if text.getLast? == some '\n' then text.dropLast else text with
  | [] => some none
  | ':' :: digits =>
    if digits.all isAsciiDigit && (digits.dropWhile (· == .char '0')).length ≤ 5 then
      some (if digits.isEmpty then none else some (digitsValue digits))
    else none
  | _ => none

def readHostAndPort? (text : Text) : Option (Text × Option Nat) :=
  match text with
  | '[' :: rest =>
    let (inside, after) := cutAt (.char ']') rest
    if rest.contains ']' && isBracketed inside then
      (readPort? after).map ((.char '[' :: inside ++ [.char ']']), ·)
    else none
  | _ =>
    let host := text.takeWhile (· != .char ':')
    let after := text.dropWhile (· != .char ':')
    if isName host then
      if after.isEmpty then some (host, none) else (readPort? after).map (host, ·)
    else none

def isForbidden (c : CodePoint) : Bool :=
  c.toNat ≤ 0x20 || c.toNat == 0x7F || ("#%/:<>?@[\\]^|" : Text).contains c

def usualLabel (label : Text) : Except AddressError Text :=
  if HostName.isAscii label then .ok (label.map asciiLower)
  else match HostName.encode? label with
    | some encoded => .ok encoded
    | none => .error (.unknownLabel (label))

def usualName (name : Text) : Except AddressError Text := do
  let name := unescape name
  match name.find? isForbidden with
  | some c => throw (.forbiddenCharacter (name) c)
  | none => return joinWith (.char '.') (← (splitAt (.char '.') name).mapM usualLabel)

/-- A host of numbers between colons in the form in which it is requested. -/
def usualNumbers (host : Text) : Text :=
  let numbers := host.takeWhile (· != .char '%')
  match host.dropWhile (· != .char '%') with
  | [] => host.map asciiLower
  | zone =>
    let zone := match zone.dropLast with
      | '%' :: '2' :: '5' :: c :: name => c :: name
      | zone => zone.drop 1
    numbers.map asciiLower ++ .char '%' :: usualForm isUnreserved zone ++ [.char ']']

def usualHost (host : Text) : Except AddressError Text :=
  if host.head? == some '[' then .ok (usualNumbers host)
  else if isFourNumbers host then .ok host
  else usualName host

end Observance.Simulation.Address

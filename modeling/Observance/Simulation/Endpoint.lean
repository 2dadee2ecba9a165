import Observance.Simulation.Punycode
import Observance.Simulation.Address.Basic

/-! # Endpoints

An endpoint is registered at an address and answers the requests that match it. The two addresses
match if they are the same up to the path, whichever way they are written, and if their queries give
the same names the same values, unless the registered address has no query. An address that does not
match is refused.
-/

namespace Observance.Simulation

open Observance.Text

/-- The parts of an address as they are written. -/
structure WrittenAddress where
  scheme : Text
  authority : Text
  path : Text
  query : Text
  fragment : Text
deriving Repr, DecidableEq

namespace WrittenAddress

/-- Whether a character does not count in an address. -/
def isIgnored (c : CodePoint) : Bool := c == '\t' || c == '\n' || c == '\r'

def ofChars (text : Text) : WrittenAddress :=
  let text := text.filter (!isIgnored ·)
  let (scheme, rest) := match Address.splitScheme? text with
    | some (name, rest) => (name.map asciiLower, rest)
    | none => ([], text)
  let (authority, rest) := Address.splitAuthority ("/?#" : Text).contains rest
  let (rest, fragment) := splitOff (.char '#') rest
  let (path, query) := splitOff (.char '?') rest
  { scheme, authority, path, query := query.getD [], fragment := fragment.getD [] }

def toChars (address : WrittenAddress) : Text :=
  let scheme := if address.scheme.isEmpty then [] else address.scheme ++ [.char ':']
  let authority : Text := if address.authority.isEmpty then [] else "//" ++ address.authority
  scheme ++ authority ++ address.path ++ Address.behindMark '?' (some address.query) ++
    Address.behindMark '#' (some address.fragment)

end WrittenAddress

/-- A query as names and values. Those without a value do not count. -/
abbrev Query := List (Text × Text)

namespace Query

/-- The text that a name or a value stands for; a plus sign stands for a blank. -/
def valueOf (text : Text) : Text :=
  Address.unescape (text.map fun c : CodePoint => if c == '+' then ' ' else c)

def ofChars (text : Text) : Query :=
  (splitAt (.char '&') text).filterMap fun field =>
    let (name, value) := cutAt (.char '=') field
    if value.isEmpty then none else some (valueOf name, valueOf value)

def isOrdered (first second : Text × Text) : Bool :=
  first.1 < second.1 || (first.1 == second.1 && !(second.2 < first.2))

def sorted (query : Query) : Query := query.mergeSort isOrdered

/-- Gives a field a value: the place where it has had one stays. -/
def assign (query : Query) (field : Text × Text) : Query :=
  if query.any (·.1 == field.1) then
    query.map fun old => if old.1 == field.1 then field else old
  else query ++ [field]

/-- Fields as messages show them: of the values of a name, the last one. -/
def display (query : Query) : Text :=
  let fieldText (field : Text × Text) : Text := quote field.1 ++ ": " ++ quote field.2
  "\x7b" ++ List.intercalate (", " : Text) ((query.foldl assign []).map fieldText) ++ "\x7d"

end Query

/-- Why an endpoint refuses a request. -/
inductive Mismatch where
  | address
  | query (requested registered : Query)
deriving Repr, DecidableEq

def Mismatch.message : Mismatch → Text
  | .address => "URL does not match"
  | .query requested registered =>
    "Query string doesn't match. " ++ requested.display ++ " doesn't match " ++ registered.display

namespace Endpoint

def registered (address : Text) : Text :=
  let written := WrittenAddress.ofChars address
  if written.path.isEmpty then
    { written with path := ['/'] }.toChars
  else address

/-- Whether a character is beyond the first that follow ASCII. -/
def isForeign (c : CodePoint) : Bool := c.toNat > 0x80

/-- A label of a registered address, written in ASCII without any check. -/
def plainLabel (label : Text) : Text :=
  if label.any isForeign then HostName.encodedMark ++ Punycode.encode label else label

/-- A registered address, written in ASCII. -/
def plain (address : Text) : Text :=
  let written := WrittenAddress.ofChars address
  let address :=
    if written.authority.any isForeign then
      let labels := (splitAt (.char '.') written.authority).map plainLabel
      { written with authority := joinWith (.char '.') labels }.toChars
    else address
  Address.escapeUnless (!isForeign ·) address

/-- The usual form of an address up to its path. -/
def usualPlace (address : Text) : Except AddressError Text := do
  let written := WrittenAddress.ofChars address
  let text := written.scheme ++ "://" ++ written.authority ++ written.path
  return (← Address.read text).withoutQuery

def fieldsOf (address : Text) : Query :=
  (Query.ofChars (WrittenAddress.ofChars address).query).sorted

/-- What is wrong with a request for the endpoint at a registered address, if anything is. The
comparison fails if one of the addresses cannot be read. -/
def mismatch? (registered requested : Text) : Except AddressError (Option Mismatch) := do
  let place ← usualPlace (plain registered)
  if place != (← usualPlace requested) then return some .address
  let fields := fieldsOf registered
  let isFree := (WrittenAddress.ofChars registered).query.isEmpty
  if isFree || fieldsOf requested == fields then return none
  return some (.query (fieldsOf requested) fields)

end Endpoint

end Observance.Simulation

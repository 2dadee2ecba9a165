import Observance.Simulation.Address.Basic

/-! # Prepared addresses

An address is prepared before anything is requested. One with a colon that does not begin like an
address of the web is left alone; there is just nothing that could request it. Any other has to
have a scheme and a host.
-/

namespace Observance.Simulation.Address

open Observance.Text

/-- The text of an address in which a missing path is a slash, and port 0 does not count. -/
def preparedText (address : Address) (scheme : Text) (authority : Authority) : Text :=
  let authority := { authority with port := authority.port.filter (· != 0) }
  escapeWhole (scheme ++ "://" ++ authorityText authority ++
    (if address.path.isEmpty then [.char '/'] else address.path) ++
    behindMark '?' address.query ++ behindMark '#' address.fragment)

def plainPoint (c : CodePoint) : CodePoint := if ("。．｡" : Text).contains c then '.' else c

/-- The host that is requested. Only a host of another scheme than those of the web can have
characters outside ASCII left. -/
def preparedHost (host : Text) : Except AddressError Text :=
  if HostName.isAscii host then
    if host.head? == some '*' || host.head? == some '.' then .error .invalidLabel else .ok host
  else match (splitAt (.char '.') (host.map plainPoint)).mapM HostName.encode? with
    | some labels => .ok (joinWith (.char '.') labels)
    | none => .error .invalidLabel

/-- The form in which an address of the web is requested. -/
def prepareWeb (text : Text) : Except AddressError Text := do
  let address ← read text
  match address.scheme with
  | none => throw (.schemeMissing text)
  | some scheme =>
    match address.authority.filter (!·.host.isEmpty) with
    | none => throw (.hostMissing text)
    | some authority =>
      let host ← preparedHost authority.host
      return (preparedText address scheme { authority with host })

def beginsWith (start text : Text) : Bool :=
  start.isPrefixOf (text.map asciiLower)

def prepare (text : Text) : Except AddressError Text := do
  let text := (trimLeft text)
  let prepared ←
    if text.contains ':' && !beginsWith "http" text then .ok text else prepareWeb text
  if beginsWith "https://" prepared || beginsWith "http://" prepared then return prepared
  else throw (.unsupportedScheme prepared)

end Observance.Simulation.Address

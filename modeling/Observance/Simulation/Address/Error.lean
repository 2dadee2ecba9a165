import Observance.Text.Quoted

/-! # Errors of addresses

An address may lack a scheme or a host, or its parts cannot be read. Such an address is not
requested, and neither is one whose scheme is none of the web.
-/

namespace Observance.Simulation

open Observance.Text

/-- Why an address cannot be requested. -/
inductive AddressError where
  | schemeMissing (address : Text)
  | hostMissing (address : Text)
  /-- The port is too great. -/
  | unreadable (address : Text)
  /-- What stands for a host and a port is neither. -/
  | notHostAndPort (text : Text)
  /-- A host has a character that no host can have. -/
  | forbiddenCharacter (host : Text) (character : CodePoint)
  /-- A part of a host cannot be registered. -/
  | unknownLabel (label : Text)
  /-- A host begins like a pattern. -/
  | invalidLabel
  | unsupportedScheme (address : Text)
deriving Repr, DecidableEq

namespace AddressError

def message : AddressError → Text
  | .schemeMissing address =>
    "Invalid URL " ++ quote address ++ ": No scheme supplied. Perhaps you meant https://" ++
      address ++ "?"
  | .hostMissing address => "Invalid URL " ++ quote address ++ ": No host supplied"
  | .unreadable address => "Failed to parse: " ++ address
  | .notHostAndPort text => "Failed to parse: " ++ quote text ++ " is not a valid host or port"
  | .forbiddenCharacter host character =>
    "Failed to parse: Host " ++ quote host ++ " contains invalid character " ++ quote [character]
  | .unknownLabel label => "Failed to parse: Name '" ++ label ++ "' is not a valid IDNA label"
  | .invalidLabel => "URL has an invalid label."
  | .unsupportedScheme address => "No connection adapters were found for " ++ quote address

/-- The name of an error's kind in reports. -/
def kind : AddressError → String
  | .schemeMissing _ => "MissingSchema"
  | .unsupportedScheme _ => "InvalidSchema"
  | _ => "InvalidURL"

end AddressError

end Observance.Simulation

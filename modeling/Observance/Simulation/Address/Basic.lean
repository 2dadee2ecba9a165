import Observance.Simulation.Address.Host

/-! # Addresses

An address has a scheme, an authority (a host, with a user before it and a port behind it), a path,
a query and a fragment, and all of them may be missing. An address of the web is read in its usual
form: scheme and host in small letters, the path without dots, and characters that an address cannot
hold as escaped bytes. The parts of other addresses stay as they are.
-/

namespace Observance.Simulation

open Observance.Text

/-- The host of an address, with a user before and a port behind. -/
structure Authority where
  user : Option Text
  host : Text
  port : Option Nat
deriving Repr, DecidableEq

/-- The parts of an address. -/
structure Address where
  scheme : Option Text
  authority : Option Authority
  path : Text
  query : Option Text
  fragment : Option Text
deriving Repr, DecidableEq

namespace Address

/-- The name of a scheme and what follows its colon. -/
def splitScheme? (text : Text) : Option (Text × Text) :=
  let isPart (c : CodePoint) : Bool := (isAsciiLetter c || isAsciiDigit c) ||
    c == '+' || c == '.' || c == '-'
  match text.takeWhile isPart, text.dropWhile isPart with
  | c :: name, ':' :: rest => if isAsciiLetter c then some (c :: name, rest) else none
  | _, _ => none

/-- Whether an address begins with a scheme or a slash; others begin with a host. -/
def beginsPlainly (text : Text) : Bool :=
  match text with
  | '/' :: _ => true
  | _ =>
    match splitScheme? text with
    | some (name, _) => !name.contains '.'
    | none => false

def isOfWeb (scheme : Option Text) : Bool :=
  scheme.all fun name : Text => name == "http" || name == "https"

def maximalPort : Nat := 65535

def readAuthority (address : Text) (isWeb : Bool) (text : Text) :
    Except AddressError Authority := do
  let (user, hostAndPort) := cutAtLast (.char '@') text
  match readHostAndPort? hostAndPort with
  | none => throw (.notHostAndPort (hostAndPort))
  | some (host, port) =>
    if port.any (maximalPort < ·) then throw (.unreadable address)
    return {
      user :=
        if user.isEmpty then none
        else some (if isWeb then usualForm isUserChar user else user)
      host := ← if isWeb then usualHost host else .ok host
      port }

/-- The segments of a path without dots, the last first. -/
def resolveSegments (kept : List Text) : List Text → List Text
  | [] => kept
  | ['.'] :: rest => resolveSegments kept rest
  | ['.', '.'] :: rest => resolveSegments (kept.drop 1) rest
  | segment :: rest => resolveSegments (segment :: kept) rest

def withoutDots (path : Text) : Text :=
  let segments := splitAt (.char '/') path
  let kept := (resolveSegments [] segments).reverse
  let absolute := if path.head? == some '/' && kept.head? != some [] then [] :: kept else kept
  let last := segments.getLast?
  let endsWithDots := segments.length > 1 && last.any fun last : Text => last == "." || last == ".."
  joinWith (.char '/') (if endsWithDots then absolute ++ [[]] else absolute)

/-- A path that begins with a slash, unless it is empty. -/
def withSlash (path : Text) : Text :=
  if path.isEmpty || path.head? == some '/' then path else '/' :: path

def splitAuthority (endsHost : CodePoint → Bool) (text : Text) : Text × Text :=
  match text with
  | '/' :: '/' :: rest => (rest.takeWhile (!endsHost ·), rest.dropWhile (!endsHost ·))
  | _ => ([], text)

def read (address : Text) : Except AddressError Address := do
  let text := address
  let text := if beginsPlainly text then text else '/' :: '/' :: text
  let (scheme, rest) := match splitScheme? text with
    | some (name, rest) => (some (name.map asciiLower), rest)
    | none => (none, text)
  let (rest, fragment) := splitOff (.char '#') rest
  let (rest, query) := splitOff (.char '?') rest
  let (authority, path) := splitAuthority (fun c => c == '\\' || c == '/') rest
  let isWeb := isOfWeb scheme
  let form (isAllowed : CodePoint → Bool) (part : Text) : Text :=
    if isWeb then usualForm isAllowed part else part
  return {
    scheme
    authority := ←
      if authority.isEmpty then .ok none else some <$> readAuthority address isWeb authority
    path := withSlash (form isPathChar (if isWeb then withoutDots path else path))
    query := query.map (form isQueryChar)
    fragment := fragment.map (form isQueryChar) }

def authorityText (authority : Authority) : Text :=
  let user := match authority.user with
    | some user => user ++ [.char '@']
    | none => []
  let port := match authority.port with
    | some port => ':' :: numeral 10 port
    | none => []
  user ++ authority.host ++ port

/-- A part of an address behind its mark, or nothing if the part is empty. -/
def behindMark (mark : CodePoint) (part : Option Text) : Text :=
  match part with
  | some (c :: rest) => mark :: c :: rest
  | _ => []

def withoutQuery (address : Address) : Text :=
  (match address.scheme with
    | some scheme => scheme ++ "://"
    | none => []) ++
  (match address.authority with
    | some authority => authorityText authority
    | none => []) ++
  address.path

end Address

end Observance.Simulation

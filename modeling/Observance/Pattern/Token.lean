import Observance.Pattern.Error
import Observance.Text.Room

/-! # Tokens of search patterns

A token is a character, or a backslash with the character after it. Reading looks one token ahead,
so a backslash with nothing after it is reported as soon as the token before it has been taken.
-/

namespace Observance.Pattern

/-- A token of a pattern. -/
inductive Token where
  | plain (c : CodePoint)
  | escaped (c : CodePoint)
deriving Repr, DecidableEq, Inhabited

namespace Token

def text : Token → Text
  | .plain c => [c]
  | .escaped c => ['\\', c]

def width : Token → Nat
  | .plain _ => 1
  | .escaped _ => 2

/-- The tokens of a text, and whether a lone backslash ends it. -/
def ofText : Text → List Token × Bool
  | [] => ([], false)
  | ['\\'] => ([], true)
  | '\\' :: c :: rest =>
    let (tokens, dangling) := ofText rest
    (.escaped c :: tokens, dangling)
  | c :: rest =>
    let (tokens, dangling) := ofText rest
    (.plain c :: tokens, dangling)

end Token

/-- The least and the greatest number of characters that something can match. -/
structure Width where
  least : Nat
  most : Nat
deriving Repr, DecidableEq, Inhabited

/-- What reading a pattern keeps track of. -/
structure ReadState where
  /-- The tokens not yet taken. -/
  tokens : List Token
  /-- The offset of the next token. -/
  position : Nat
  /-- The offset of a lone backslash at the end of the pattern. -/
  dangling : Option Nat
  /-- The flags of the pattern as a whole. -/
  flags : Flags
  /-- The number of groups opened so far, the pattern as a whole included. -/
  groups : Nat := 1
  /-- The widths of the groups closed so far. -/
  closed : List (Nat × Width) := []
  /-- The group names given so far. -/
  names : List (Text × Nat) := []
  /-- Inside a look-behind, the number of groups opened before it. -/
  lookbehindGroups : Option Nat := none
  /-- The groups that conditions name by number, with the place of their first mention, latest
  first. -/
  conditions : List (Nat × Nat) := []
  /-- How much deeper groups may lie in one another. -/
  room : Room := none

abbrev Reading := StateT ReadState (Except Fault)

namespace Reading

def failAt (problem : Problem) (offset : Nat) : Reading α :=
  throw (.invalid problem (some offset))

def position : Reading Nat := return (← get).position

/-- Fails a number of characters before the next token. -/
def failBack (problem : Problem) (back : Nat := 0) : Reading α := do
  failAt problem ((← position) - back)

/-- Reads a part that takes up some of the room. -/
def nested (taken : Nat) (part : Reading α) : Reading α := do
  let outer := (← get).room
  match outer.enter? taken with
  | none => throw .tooDeep
  | some room =>
    modify fun state => { state with room }
    let result ← part
    modify fun state => { state with room := outer }
    return result

def peek : Reading (Option Token) := return (← get).tokens.head?

/-- Fails if the next thing in the pattern is the lone backslash at its end. -/
def checkDangling : Reading Unit := do
  let state ← get
  match state.tokens, state.dangling with
  | [], some offset => failAt .danglingBackslash offset
  | _, _ => return

/-- Takes the next token. -/
def next : Reading (Option Token) := do
  let state ← get
  match state.tokens with
  | [] => return none
  | token :: rest =>
    set { state with tokens := rest, position := state.position + token.width }
    checkDangling
    return some token

/-- Takes the next token if it is the given character. -/
def accept (c : CodePoint) : Reading Bool := do
  if (← peek) == some (.plain c) then
    discard next
    return true
  else return false

/-- Takes up to `count` characters of a class. -/
def takeUpTo : Nat → (CodePoint → Bool) → Reading Text
  | 0, _ => return []
  | count + 1, allowed => do
    match ← peek with
    | some (.plain c) =>
      if allowed c then
        discard next
        return c :: (← takeUpTo count allowed)
      else return []
    | _ => return []

/-- Takes all characters of a class that come next. -/
def takeAll (allowed : CodePoint → Bool) : Reading Text := do
  takeUpTo (← get).tokens.length allowed

/-- Takes the text up to a terminator and the terminator itself; `what` names the text in
messages. -/
def takeUntil (terminator : CodePoint) (what : String) : Reading Text := do
  collect ((← get).tokens.length + 1) []
where
  collect : Nat → Text → Reading Text
    | 0, taken => failBack (.unterminatedName terminator) taken.length
    | fuel + 1, taken => do
      match ← next with
      | none =>
        if taken.isEmpty then failBack (.missingName what)
        else failBack (.unterminatedName terminator) taken.length
      | some token =>
        if token == .plain terminator then
          if taken.isEmpty then failBack (.missingName what) 1 else return taken
        else collect fuel (taken ++ token.text)

end Reading

end Observance.Pattern

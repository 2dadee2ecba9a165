import Observance.Pattern.Compile

/-! # Search patterns

A pattern is compiled once and then searched for in any number of texts. Patterns of this library
ignore case.
-/

namespace Observance

/-- A compiled search pattern, with the text it was made from. -/
structure Pattern where
  source : Text
  node : Pattern.Node
  /-- The least number of characters that a match takes. -/
  least : Nat
deriving Repr, Inhabited

namespace Pattern

/-- Compiles a pattern that ignores case. -/
def compile (source : Text) (room : Room := none) : Except Fault Pattern := do
  let parsed ← parse source { ignoreCase := true } room
  let node ← assemble parsed.widths parsed.flags room parsed.items
  return { source, node, least := (sequenceWidth parsed.widths parsed.items).least }

/-- The number of spots of a text at which a match may begin, given the least number of characters
that it takes. -/
def spotsToTry (size least : Nat) : Nat := if size < least then 0 else size - (least - 1) + 1

/-- Whether a pattern matches somewhere in a text. -/
def search (pattern : Pattern) (text : Text) : Except SearchFault Bool :=
  let subject := Subject.ofText text
  match pattern.node.search? subject (spotsToTry subject.size pattern.least)
      (.start subject.codes) with
  | some memory => if memory.isTorn then .error .tornGroup else .ok true
  | none => .ok false

end Pattern

end Observance

import Observance.Text.Basic

/-! # Places in a text

Error messages locate a character by its offset from the start of the text and by its line and
column, both counted from one. Only a line feed ends a line.
-/

namespace Observance.Text

/-- A place in a text, as messages give it. -/
structure Place where
  offset : Nat
  line : Nat
  column : Nat
deriving Repr, DecidableEq

def placeAt (text : Text) (offset : Nat) : Place :=
  let before := text.take offset
  { offset
    line := before.count (.char '\n') + 1
    column := (before.reverse.takeWhile (· != .char '\n')).length + (offset - before.length) + 1 }

end Observance.Text

import Observance.Text.Blank
import Observance.Text.Case
import Observance.Text.Split

/-! # Properties of a feed

A line gives a property: its name, a semicolon and parameters if there are any, a colon, and its
value. The first colon ends the name and the parameters, so only the value can hold further ones.
-/

namespace Observance.Feed

open Observance.Text

/-- A property of a feed. -/
structure Property where
  name : Text
  parameters : Text
  value : Text
deriving Repr, DecidableEq

/-- The property that a line gives; its value has no blanks at its ends. -/
def Property.ofLine (line : Text) : Property :=
  let (head, value) := cutAt (.char ':') line
  let (name, parameters) := cutAt (.char ';') head
  { name, parameters, value := trim value }

/-- Whether one of the parameters says that the value is a date without a time. -/
def declaresDate (parameters : Text) : Bool :=
  (splitAt (.char ';') parameters).any fun parameter => capitalizesTo (trim parameter) "VALUE=DATE"

end Observance.Feed

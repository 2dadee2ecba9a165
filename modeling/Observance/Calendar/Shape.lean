import Observance.Text.Digit

/-! # The shape of a date

Published dates are checked for their shape before they are read: digits and hyphens in the places
of `YYYY-MM-DD`. The digits may be of any script, and one line feed may follow them.
-/

namespace Observance.Calendar

open Observance.Text

/-- Whether characters have the shape of a date, with nothing after it. -/
def isDateShape : Text → Bool
  | [y₁, y₂, y₃, y₄, '-', m₁, m₂, '-', d₁, d₂] =>
    [y₁, y₂, y₃, y₄, m₁, m₂, d₁, d₂].all isDigit
  | _ => false

/-- Whether a text has the shape of a date, perhaps with a line feed after it. -/
def hasDateShape (text : Text) : Bool :=
  isDateShape text || (text.getLast? == some (.char '\n') && isDateShape text.dropLast)

end Observance.Calendar

import Observance.Field

/-! # Windows

An observance may already be shown some days before it starts, and still some days after it ends.
-/

namespace Observance

/-- The days around an event during which it may be shown. -/
structure Window (Days : Type) where
  daysBefore : Days
  daysAfter : Days
deriving Repr, DecidableEq, Inhabited

namespace Window

/-- The window that is used unless a document has another. -/
def usual : Window Int := ⟨5, 2⟩

/-- The most days that a document may ask for on either side. -/
def mostDays : Int := 366

/-- Whether a number of days is one that a document may ask for. -/
def isAllowed (days : Int) : Bool := 0 ≤ days && days ≤ mostDays

def toJson {Days : Type} [Publishable Days] (window : Window Days) : Json :=
  .object [("daysBefore", Publishable.toJson window.daysBefore),
    ("daysAfter", Publishable.toJson window.daysAfter)]

/-- The window without what is known about its sides. -/
def unchecked {Days : Type} [Publishable Days] (window : Window Days) : Window Json :=
  ⟨Publishable.toJson window.daysBefore, Publishable.toJson window.daysAfter⟩

end Window

end Observance

import Observance.Json.Display

/-! # Order between values

Numbers and truth values are compared by value, whatever their type; texts by code point; arrays
by their first unequal elements, a proper front part coming first. Values of other types, or of
different types, have no order, and asking for it is an error. Equality never fails; objects are
equal when they give equal values to the same names, in whatever order.
-/

namespace Observance.Json

/-- An order was asked for that does not exist. -/
structure Unordered where
  left : String
  right : String
deriving Repr, DecidableEq

def Unordered.message (error : Unordered) : String :=
  s!"'<' not supported between instances of '{error.left}' and '{error.right}'"

/-- A value that counts as a number. -/
inductive Numeric where
  | whole (value : Int)
  | real (value : Binary64)

def numeric? : Json → Option Numeric
  | .bool value => some (.whole value.toNat)
  | .integer value => some (.whole value)
  | .real value => some (.real value)
  | _ => none

/-- Order between two numbers; none if either is no number. -/
def Numeric.compare? : Numeric → Numeric → Option Ordering
  | .whole a, .whole b => some (compare a b)
  | .real a, .whole b => a.compareInt? b
  | .whole a, .real b => (b.compareInt? a).map Ordering.swap
  | .real a, .real b => a.compare? b

def equalNumeric (a : Numeric) (b : Json) : Bool :=
  match numeric? b with
  | some b => a.compare? b == some .eq
  | none => false

mutual

def equal : Json → Json → Bool
  | .null, .null => true
  | .text a, .text b => a == b
  | .array as, .array bs => equalElements as bs
  | .object as, .object bs => as.length == bs.length && equalFields as bs
  | .bool a, b => equalNumeric (.whole a.toNat) b
  | .integer a, b => equalNumeric (.whole a) b
  | .real a, b => equalNumeric (.real a) b
  | _, _ => false

def equalElements : List Json → List Json → Bool
  | [], [] => true
  | a :: as, b :: bs => equal a b && equalElements as bs
  | _, _ => false

def equalFields : List (Text × Json) → List (Text × Json) → Bool
  | [], _ => true
  | (name, value) :: rest, others =>
    (match others.lookup name with
      | some other => equal value other
      | none => false) && equalFields rest others

end

mutual

def less? : Json → Json → Except Unordered Bool
  | .text a, .text b => .ok (a < b)
  | .array as, .array bs => lessElements? as bs
  | a, b =>
    match numeric? a, numeric? b with
    | some m, some n => .ok (m.compare? n == some .lt)
    | _, _ => .error ⟨a.typeName, b.typeName⟩

/-- Whether one array comes before another: the first unequal elements decide. -/
def lessElements? : List Json → List Json → Except Unordered Bool
  | a :: as, b :: bs => if equal a b then lessElements? as bs else less? a b
  | [], _ :: _ => .ok true
  | _, [] => .ok false

end

end Observance.Json

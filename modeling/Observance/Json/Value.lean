import Observance.Binary64

/-! # JSON values

Integers are kept apart from numbers written with a fraction or an exponent, because only the
former count as integers. An object keeps its fields in the order in which their names first
appeared.
-/

namespace Observance

/-- A JSON value. -/
inductive Json where
  | null
  | bool (value : Bool)
  | integer (value : Int)
  | real (value : Binary64)
  | text (value : Text)
  | array (elements : List Json)
  | object (fields : List (Text × Json))
deriving Repr, Inhabited

/-- The fields of a JSON object. -/
abbrev Fields := List (Text × Json)

namespace Fields

/-- The value of a field. -/
def get? (fields : Fields) (name : Text) : Option Json := List.lookup name fields

/-- Sets a field: an existing field keeps its place, a new one goes to the end. -/
def put (fields : Fields) (name : Text) (value : Json) : Fields :=
  match fields with
  | [] => [(name, value)]
  | (other, old) :: rest =>
    if other == name then (name, value) :: rest else (other, old) :: Fields.put rest name value

end Fields

namespace Json

def fields? : Json → Option Fields
  | .object fields => some fields
  | _ => none

def elements? : Json → Option (List Json)
  | .array elements => some elements
  | _ => none

def text? : Json → Option Text
  | .text value => some value
  | _ => none

/-- The value of an integer; numbers with a fraction or an exponent are none. -/
def integer? : Json → Option Int
  | .integer value => some value
  | _ => none

def nonEmptyText? : Json → Option Text
  | .text value => if value.isEmpty then none else some value
  | _ => none

/-- A field of an object; `none` also for values that are no objects. -/
def field? (value : Json) (name : Text) : Option Json :=
  value.fields?.bind (Fields.get? · name)

/-- Whether a value counts as present: null, false, zeros and everything empty do not. -/
def isPresent : Json → Bool
  | .null => false
  | .bool value => value
  | .integer value => value != 0
  | .real value => !value.isZero
  | .text value => !value.isEmpty
  | .array elements => !elements.isEmpty
  | .object fields => !fields.isEmpty

end Json

end Observance

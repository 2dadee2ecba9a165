import Observance.Field

/-! # Resolved events

A resolved event gives one observance a first and a last day. Its fields are texts wherever this
library makes it; events that are handed in may have fields of any type, which are then checked
before they are published.
-/

namespace Observance

/-- An observance with its first and its last day. -/
structure Event (Data : Type) where
  id : Data
  name : Data
  importance : Data
  themeId : Data
  startDate : Data
  endDate : Data
deriving Repr, DecidableEq, Inhabited

namespace Event

/-- An event whose fields are made from those of another. -/
def map {Data Other : Type} (convert : Data → Other) (event : Event Data) : Event Other :=
  { id := convert event.id, name := convert event.name, importance := convert event.importance,
    themeId := convert event.themeId, startDate := convert event.startDate,
    endDate := convert event.endDate }

def toJson {Data : Type} [Publishable Data] (event : Event Data) : Json :=
  let event := event.map Publishable.toJson
  .object [
    ("id", event.id),
    ("name", event.name),
    ("importance", event.importance),
    ("themeId", event.themeId),
    ("startDate", event.startDate),
    ("endDate", event.endDate)]

/-- The event that the fields of an object give; fields that are missing are null. -/
def ofFields (fields : Fields) : Event Json :=
  let field (name : Text) : Json := (fields.get? name).getD .null
  { id := field "id", name := field "name", importance := field "importance",
    themeId := field "themeId", startDate := field "startDate", endDate := field "endDate" }

end Event

end Observance

import Observance.Json.Value

/-! # Fields of objects

What is under a name after a field was set is the new value under the name of that field, and what
was there before under every other name; after several were set, each of them is there. Documents
ask two things of their fields over and over: that a field is a text and not empty, or that it is an
integer within bounds.
-/

namespace Observance

namespace Json

theorem fields?_eq_some {value : Json} {fields : Fields} :
    value.fields? = some fields ↔ value = .object fields := by
  cases value <;> simp [fields?]

theorem elements?_eq_some {value : Json} {elements : List Json} :
    value.elements? = some elements ↔ value = .array elements := by
  cases value <;> simp [elements?]

theorem integer?_eq_some {value : Json} {number : Int} :
    value.integer? = some number ↔ value = .integer number := by
  cases value <;> simp [integer?]

theorem text?_eq_some {value : Json} {text : Text} :
    value.text? = some text ↔ value = .text text := by
  cases value <;> simp [text?]

end Json

namespace Fields

/-- Whether a field is a text, and not an empty one. -/
def HasText (fields : Fields) (name text : Text) : Prop :=
  fields.get? name = some (.text text) ∧ text ≠ []

/-- Whether a field is an integer that is not out of bounds. -/
def HasInteger (fields : Fields) (name : Text) (least most value : Int) : Prop :=
  fields.get? name = some (.integer value) ∧ least ≤ value ∧ value ≤ most

theorem get?_put (fields : Fields) (name other : Text) (value : Json) :
    (fields.put name value).get? other =
      if other = name then some value else fields.get? other := by
  simp only [Fields.get?]
  induction fields with
  | nil =>
    by_cases same : other = name
    · simp [Fields.put, same]
    · simp [Fields.put, same, List.lookup_cons, beq_false_of_ne same]
  | cons field fields ih =>
    obtain ⟨first, old⟩ := field
    unfold Fields.put
    by_cases here : other = first
    · subst here
      by_cases same : other = name <;> simp [same]
    · split
      next found =>
        have apart : other ≠ name := by
          rwa [← eq_of_beq found]
        simp [List.lookup_cons, beq_false_of_ne apart, beq_false_of_ne here, apart]
      next =>
        rw [List.lookup_cons, beq_false_of_ne here, ih, List.lookup_cons, beq_false_of_ne here]

theorem get?_cons (name other : Text) (value : Json) (fields : Fields) :
    get? ((name, value) :: fields) other =
      if other = name then some value else fields.get? other := by
  by_cases same : other = name
  · simp [get?, same]
  · simp [get?, List.lookup_cons, beq_false_of_ne same, same]

theorem get?_eq_none_of_not_mem {fields : Fields} {name : Text}
    (absent : ∀ field ∈ fields, field.1 ≠ name) : fields.get? name = none := by
  induction fields with
  | nil => rfl
  | cons field fields ih =>
    obtain ⟨apart, others⟩ := List.forall_mem_cons.mp absent
    rw [get?_cons, if_neg (Ne.symm apart), ih others]

/-- What is under a name among the fields of some names. -/
theorem get?_filter (isKept : Text → Bool) (fields : Fields) (name : Text) :
    get? (fields.filter fun field => isKept field.1) name =
      if isKept name then fields.get? name else none := by
  induction fields with
  | nil => simp [get?]
  | cons field fields ih =>
    obtain ⟨other, value⟩ := field
    by_cases kept : isKept other = true
    · simp only [List.filter_cons, kept, if_true, get?_cons, ih]
      by_cases same : name = other
      · simp [same, kept]
      · simp [same]
    · simp only [List.filter_cons, kept, Bool.false_eq_true, if_false, get?_cons, ih]
      by_cases same : name = other
      · simp [same, kept]
      · simp [same]

/-- After several fields were set, each of them is there, and what was there before is under every
other name. -/
theorem get?_foldl_put {written : Fields} (distinct : (written.map Prod.fst).Nodup)
    (fields : Fields) (name : Text) :
    get? (written.foldl (fun fields field => put fields field.1 field.2) fields) name =
      (written.get? name).or (fields.get? name) := by
  induction written generalizing fields with
  | nil => rfl
  | cons field written ih =>
    obtain ⟨other, value⟩ := field
    obtain ⟨new, others⟩ := List.nodup_cons.mp distinct
    rw [List.foldl_cons, ih others, get?_put, get?_cons]
    by_cases same : name = other
    · subst same
      have absent : get? written name = none :=
        get?_eq_none_of_not_mem fun field member same =>
          new (List.mem_map.mpr ⟨field, member, same⟩)
      simp [absent]
    · simp [same]

end Fields

end Observance

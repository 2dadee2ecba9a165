import Observance.Proofs.Calendar.DateForm
import Observance.Proofs.Rule.Grammar
import Observance.Proofs.Theme.Activity

/-! # What is read of an untrusted document

Every object gives a schedule, whatever its fields are. What that schedule is can be said of each
field on its own, without reading the document: a field of the wrong type is as good as none, the
window is taken as a whole or not at all, and an element of the events is kept or left out for what
it is itself. Only the window is looked at twice, since an event also has to stay in the calendar
under it.
-/

namespace Observance

open Calendar

/-- A value is one that meets a condition, or the usual value if no value meets it. -/
inductive Chosen {α : Type} (meets : α → Prop) (usual : α) : α → Prop
  | own {value : α} (met : meets value) : Chosen meets usual value
  | usual (unmet : ∀ value, ¬meets value) : Chosen meets usual usual

/-- Values are those that stand for the elements of a list which have one, in the same order. -/
inductive Keeps {α β : Type} (gives : α → β → Prop) : List α → List β → Prop
  | nil : Keeps gives [] []
  | keep {element : α} {value : β} {elements : List α} {values : List β}
      (given : gives element value) (rest : Keeps gives elements values) :
      Keeps gives (element :: elements) (value :: values)
  | leave {element : α} {elements : List α} {values : List β}
      (useless : ∀ value, ¬gives element value) (rest : Keeps gives elements values) :
      Keeps gives (element :: elements) values

namespace Event

/-- The fields of an object have the six texts of an event, and none of them is empty. -/
structure IsIn (event : Event Text) (fields : Fields) : Prop where
  id : fields.HasText "id" event.id
  name : fields.HasText "name" event.name
  importance : fields.HasText "importance" event.importance
  themeId : fields.HasText "themeId" event.themeId
  startDate : fields.HasText "startDate" event.startDate
  endDate : fields.HasText "endDate" event.endDate

/-- Both days of an event are in the published form of a date, and the window around them goes
neither behind the first nor beyond the last day of the calendar. -/
def HasDays (window : Window Int) (event : Event Text) : Prop :=
  ∃ start stop : Date, start.IsWrittenIn event.startDate ∧ stop.IsWrittenIn event.endDate ∧
    1 ≤ start.number - window.daysBefore ∧ stop.number + window.daysAfter ≤ lastNumber

/-- An element is an object with the texts of an event that can be shown. -/
def IsEntry (window : Window Int) (element : Json) (event : Event Text) : Prop :=
  (∃ fields, element = .object fields ∧ event.IsIn fields) ∧ event.HasDays window

end Event

namespace Schedule

/-- A schedule has what can be used of the fields of a document: each field by itself, and each
event by itself under the window that was chosen. -/
structure IsReadFrom (schedule : CheckedSchedule) (fields : Fields) : Prop where
  generatedAt : Chosen (fun text => fields.get? "generatedAt" = some (.text text)) ""
    schedule.generatedAt
  window : Chosen (fun window => window.IsIn fields) ⟨5, 2⟩ schedule.window
  priorityOrder : ∃ items,
    Chosen (fun items => fields.get? "priorityOrder" = some (.array items)) [] items ∧
      Keeps (fun item text => item = .text text) items schedule.priorityOrder
  events : ∃ elements,
    Chosen (fun elements => fields.get? "resolvedEvents" = some (.array elements)) [] elements ∧
      Keeps (Event.IsEntry schedule.window) elements schedule.events

end Schedule

section Choice

variable {α β : Type}

/-- What is found or else the usual value is the chosen one. -/
theorem chosen_iff {meets : α → Prop} {usual value : α} {found : Option α}
    (finds : ∀ value, found = some value ↔ meets value) :
    Chosen meets usual value ↔ found.getD usual = value := by
  constructor
  · intro chosen
    cases chosen with
    | own met => rw [(finds value).mpr met, Option.getD_some]
    | usual unmet =>
      cases found with
      | none => rfl
      | some value => exact absurd ((finds value).mp rfl) (unmet value)
  · rintro rfl
    cases found with
    | none => exact .usual fun value met => nomatch (finds value).mpr met
    | some value => exact .own ((finds value).mp rfl)

variable {gives : α → β → Prop} {value? : α → Option β}

/-- A list is filtered by what its elements give. -/
theorem keeps_iff (finds : ∀ element value, value? element = some value ↔ gives element value)
    {elements : List α} {values : List β} :
    Keeps gives elements values ↔ elements.filterMap value? = values := by
  constructor
  · intro keeps
    induction keeps with
    | nil => rfl
    | keep given rest ih => rw [List.filterMap_cons_some ((finds _ _).mpr given), ih]
    | leave useless rest ih =>
      rw [List.filterMap_cons_none, ih]
      exact Option.eq_none_iff_forall_ne_some.mpr fun value found =>
        useless value ((finds _ _).mp found)
  · rintro rfl
    induction elements with
    | nil => exact .nil
    | cons element elements ih =>
      cases found : value? element with
      | none =>
        rw [List.filterMap_cons_none found]
        refine .leave (fun value given => ?_) ih
        rw [(finds element value).mpr given] at found
        cases found
      | some value =>
        rw [List.filterMap_cons_some found]
        exact .keep ((finds element value).mp found) ih

end Choice

namespace Schedule

theorem readField?_eq_some_iff {fields : Fields} {name text : Text} :
    readField? fields name = some text ↔ fields.HasText name text :=
  RuleDocument.textField?_eq_some

theorem readDays?_eq_some {fields : Fields} {name : Text} {days : Int} :
    readDays? fields name = some days ↔ fields.HasInteger name 0 366 days := by
  rw [readDays?, Option.filter_eq_some_iff, RuleDocument.integerField_eq_some, Window.isAllowed_iff,
    Fields.HasInteger]

/-- The window that a document has, if both of its sides are allowed. -/
def ownWindow? (fields : Fields) : Option (Window Int) := do
  let sides ← (fields.get? "window").bind Json.fields?
  let before ← readDays? sides "daysBefore"
  let after ← readDays? sides "daysAfter"
  return ⟨before, after⟩

theorem ownWindow?_eq_some {fields : Fields} {window : Window Int} :
    ownWindow? fields = some window ↔ window.IsIn fields := by
  simp only [ownWindow?, Option.bind_eq_bind, Option.bind_eq_some_iff, Json.fields?_eq_some,
    exists_eq_right, readDays?_eq_some, Option.pure_def, Option.some.injEq, Window.IsIn]
  constructor
  · rintro ⟨sides, hasSides, before, hasBefore, after, hasAfter, rfl⟩
    exact ⟨sides, hasSides, hasBefore, hasAfter⟩
  · rintro ⟨sides, hasSides, hasBefore, hasAfter⟩
    exact ⟨sides, hasSides, _, hasBefore, _, hasAfter, rfl⟩

theorem readWindow_eq_getD (fields : Fields) :
    readWindow fields = (ownWindow? fields).getD .usual := by
  unfold readWindow ownWindow?
  cases (fields.get? "window").bind Json.fields? with
  | none => rfl
  | some sides =>
    simp only [Option.bind_eq_bind, Option.bind_some]
    cases readDays? sides "daysBefore" with
    | none => rfl
    | some before => cases readDays? sides "daysAfter" <;> rfl

/-- The window of a document is its own if it has one, and otherwise the usual one. -/
theorem chosen_window_iff {fields : Fields} {window : Window Int} :
    Chosen (fun window : Window Int => window.IsIn fields) ⟨5, 2⟩ window ↔
      readWindow fields = window := by
  rw [readWindow_eq_getD]
  exact chosen_iff fun _ => ownWindow?_eq_some

/-- The elements of a document under a name are those of its array, and none if it has no array
there. -/
theorem chosen_elements_iff {fields : Fields} {name : Text} {elements : List Json} :
    Chosen (fun elements => fields.get? name = some (.array elements)) [] elements ↔
      elementsOf fields name = elements := by
  refine chosen_iff fun elements => ?_
  simp only [Option.bind_eq_some_iff, Json.elements?_eq_some, exists_eq_right]

/-- The range around two days stays in the calendar if it does on its own side of each. -/
theorem exists_activeRange?_iff {window : Window Int} (usable : window.IsUsable)
    {start stop : Date} :
    (∃ range, Theme.activeRange? window start stop = some range) ↔
      1 ≤ start.number - window.daysBefore ∧ stop.number + window.daysAfter ≤ lastNumber := by
  rw [← Option.isSome_iff_exists, Theme.isSome_activeRange?]
  have before := Window.nonneg_of_isAllowed usable.daysBefore
  have after := Window.nonneg_of_isAllowed usable.daysAfter
  have starts := start.isNumber_number
  have stops := stop.isNumber_number
  simp only [IsNumber] at starts stops ⊢
  omega

/-- The event of an element is read exactly if the element is an entry. -/
theorem readEvent?_eq_some_iff {window : Window Int} (usable : window.IsUsable) {element : Json}
    {event : Event Text} :
    readEvent? window element = some event ↔ Event.IsEntry window element event := by
  simp only [readEvent?, Option.bind_eq_bind, Option.bind_eq_some_iff, Json.fields?_eq_some,
    readField?_eq_some_iff, readDate?_eq_some_iff, ← Date.isWrittenIn_iff, Option.pure_def,
    Option.some.injEq]
  constructor
  · rintro ⟨fields, isObject, id, hasId, name, hasName, importance, hasImportance, themeId,
      hasThemeId, startDate, hasStart, endDate, hasEnd, start, starts, stop, stops, range, stays,
      rfl⟩
    have inCalendar := (exists_activeRange?_iff usable).mp ⟨range, stays⟩
    exact ⟨⟨fields, isObject, hasId, hasName, hasImportance, hasThemeId, hasStart, hasEnd⟩,
      start, stop, starts, stops, inCalendar⟩
  · rintro ⟨⟨fields, isObject, isIn⟩, start, stop, starts, stops, inCalendar⟩
    obtain ⟨range, stays⟩ := (exists_activeRange?_iff usable).mpr inCalendar
    exact ⟨fields, isObject, _, isIn.id, _, isIn.name, _, isIn.importance, _, isIn.themeId, _,
      isIn.startDate, _, isIn.endDate, start, starts, stop, stops, range, stays, rfl⟩

/-- A schedule is had from a document exactly if it is what can be used of its fields. -/
theorem ofFields_eq_iff {fields : Fields} {schedule : CheckedSchedule} :
    ofFields fields = schedule ↔ schedule.IsReadFrom fields := by
  have isMoment (text : Text) :
      Chosen (fun text => fields.get? "generatedAt" = some (.text text)) "" text ↔
        ((fields.get? "generatedAt").bind Json.text?).getD "" = text := by
    refine chosen_iff fun text => ?_
    simp only [Option.bind_eq_some_iff, Json.text?_eq_some, exists_eq_right]
  have areTexts (items : List Json) (texts : List Text) :
      Keeps (fun item text => item = .text text) items texts ↔
        items.filterMap Json.text? = texts :=
    keeps_iff fun _ _ => Json.text?_eq_some
  have areEvents (elements : List Json) (events : List (Event Text)) :
      Keeps (Event.IsEntry (readWindow fields)) elements events ↔
        elements.filterMap (readEvent? (readWindow fields)) = events :=
    keeps_iff fun _ _ => readEvent?_eq_some_iff (isUsable_readWindow fields)
  constructor
  · rintro rfl
    exact ⟨(isMoment _).mpr rfl, chosen_window_iff.mpr rfl,
      ⟨_, chosen_elements_iff.mpr rfl, (areTexts _ _).mpr rfl⟩,
      ⟨_, chosen_elements_iff.mpr rfl, (areEvents _ _).mpr rfl⟩⟩
  · obtain ⟨moment, window, priorityOrder, events⟩ := schedule
    rintro ⟨generatedAt, chosen, ⟨items, hasItems, texts⟩, elements, hasElements, entries⟩
    obtain rfl := (isMoment _).mp generatedAt
    obtain rfl := chosen_window_iff.mp chosen
    obtain rfl := chosen_elements_iff.mp hasItems
    obtain rfl := chosen_elements_iff.mp hasElements
    obtain rfl := (areTexts _ _).mp texts
    obtain rfl := (areEvents _ _).mp entries
    rfl

/-- Other events leave everything but the events as it is. -/
theorem ofFields_put_events (fields : Fields) (elements : List Json) :
    ofFields (fields.put "resolvedEvents" (.array elements)) =
      { ofFields fields with events := elements.filterMap (readEvent? (readWindow fields)) } := by
  simp [ofFields, readWindow, elementsOf, Fields.get?_put, Json.elements?]

/-- Every object gives the schedule that has what can be used of its fields, and no other. An
element that is no entry changes nothing: the same schedule is had without it. -/
theorem ofJson?_object_iff (fields : Fields) :
    (∃ schedule, ofJson? (.object fields) = some schedule) ∧
    (∀ schedule, ofJson? (.object fields) = some schedule ↔ schedule.IsReadFrom fields) ∧
    ∀ (window : Window Int) (before after : List Json) (element : Json),
      Chosen (fun window : Window Int => window.IsIn fields) ⟨5, 2⟩ window →
      (∀ event, ¬Event.IsEntry window element event) →
        ofJson? (.object (fields.put "resolvedEvents" (.array (before ++ element :: after)))) =
          ofJson? (.object (fields.put "resolvedEvents" (.array (before ++ after)))) := by
  refine ⟨⟨_, rfl⟩, ?_, ?_⟩
  · intro schedule
    rw [← ofFields_eq_iff]
    exact Option.some_inj
  · intro window before after element chosen useless
    obtain rfl := chosen_window_iff.mp chosen
    have nothing : readEvent? (readWindow fields) element = none := by
      rw [Option.eq_none_iff_forall_ne_some]
      intro event success
      exact useless event ((readEvent?_eq_some_iff (isUsable_readWindow fields)).mp success)
    simp only [ofJson?, Json.fields?, Option.map_some, ofFields_put_events, List.filterMap_append,
      List.filterMap_cons_none nothing]

/-- A document with a window that is too wide on one side, and with a number among its texts. -/
def wideWindow : Fields := [
  ("window", .object [("daysBefore", .integer 400), ("daysAfter", .integer 3)]),
  ("priorityOrder", .array [.text "school", .integer 1])]

/-- The element of an event, with a text as its first day. -/
def fairFrom (startDate : Text) : Json :=
  let event : Event Text := ⟨"fair", "Fair", "school", "stalls", startDate, "2024-06-02"⟩
  event.toJson

theorem ofJson?_object_iff_wideWindow :
    Chosen (fun window : Window Int => window.IsIn wideWindow) ⟨5, 2⟩ ⟨5, 2⟩ ∧
      (∀ event, ¬Event.IsEntry ⟨5, 2⟩ (fairFrom "2024-06-01\n") event) ∧
        ofJson? (.object (wideWindow.put "resolvedEvents"
          (.array ([] ++ fairFrom "2024-06-01\n" :: [fairFrom "2024-06-01"])))) =
            some ⟨"", ⟨5, 2⟩, ["school"],
              [⟨"fair", "Fair", "school", "stalls", "2024-06-01", "2024-06-02"⟩]⟩ := by
  have chosen : Chosen (fun window : Window Int => window.IsIn wideWindow) ⟨5, 2⟩ ⟨5, 2⟩ :=
    chosen_window_iff.mpr (by decide)
  have useless (event : Event Text) :
      ¬Event.IsEntry ⟨5, 2⟩ (fairFrom "2024-06-01\n") event := by
    have usable : Window.IsUsable ⟨5, 2⟩ := ⟨by decide, by decide⟩
    rw [← readEvent?_eq_some_iff usable]
    have nothing : readEvent? ⟨5, 2⟩ (fairFrom "2024-06-01\n") = none := by decide +kernel
    rw [nothing]
    exact nofun
  refine ⟨chosen, useless, ?_⟩
  rw [(ofJson?_object_iff wideWindow).2.2 ⟨5, 2⟩ [] _ _ chosen useless]
  decide +kernel

end Schedule

end Observance

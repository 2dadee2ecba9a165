import Observance.Proofs.Rule.Reordering

/-! # The grammar of rule documents

Which values are rule documents can be said without reading them, field by field. Reading accepts
these values and no others, although it looks at the shape of all events before it looks at their
ids and date rules: a document is refused for one violation or another, but which one comes first
matters only for the error. What an accepted document gives is its window, its importances and, in
their order, the events whose date rule is of a known type.
-/

namespace Observance

open Result

namespace Window

/-- Whether a document has a window whose sides are integers from 0 to 366. -/
def IsIn (window : Window Int) (fields : Fields) : Prop :=
  ∃ sides : Fields, fields.get? "window" = some (.object sides) ∧
    sides.HasInteger "daysBefore" 0 366 window.daysBefore ∧
    sides.HasInteger "daysAfter" 0 366 window.daysAfter

theorem isAllowed_iff {days : Int} : isAllowed days = true ↔ 0 ≤ days ∧ days ≤ 366 := by
  rw [isAllowed, Bool.and_eq_true, decide_eq_true_eq, decide_eq_true_eq, mostDays]

end Window

namespace RuleEntry

/-- Whether the fields of an event are those of an entry: four texts that are not empty, and a date
rule that has such a text as its type. -/
structure IsIn (entry : RuleEntry) (fields : Fields) : Prop where
  id : fields.HasText "id" entry.id
  name : fields.HasText "name" entry.name
  importance : fields.HasText "importance" entry.importance
  themeId : fields.HasText "themeId" entry.themeId
  dateRule : fields.get? "dateRule" = some (.object entry.dateRule)
  type : entry.dateRule.HasText "type" entry.type

def isKnown (entry : RuleEntry) : Bool := entry.type == "calendar" || entry.type == "fixed"

/-- The date rule of an entry of a known type: a pattern that can be used, or a month and a day. -/
inductive HasDateRule (entry : RuleEntry) : DateRule → Prop
  | calendar {source : Text} {pattern : Pattern} (type : entry.type = "calendar")
      (text : entry.dateRule.HasText "calendarMatch" source)
      (compiled : Pattern.compile source = .ok pattern) : HasDateRule entry (.calendar pattern)
  | fixed {month day : Nat} (type : entry.type = "fixed")
      (isMonth : entry.dateRule.HasInteger "month" 1 12 month)
      (isDay : entry.dateRule.HasInteger "day" 1 31 day) : HasDateRule entry (.fixed month day)

end RuleEntry

/-- Whether a rule has the texts and the date rule of an entry. -/
structure Rule.IsOf (rule : Rule) (entry : RuleEntry) : Prop where
  id : rule.id = entry.id
  name : rule.name = entry.name
  importance : rule.importance = entry.importance
  themeId : rule.themeId = entry.themeId
  dateRule : entry.HasDateRule rule.dateRule

namespace RuleDocument

/-- Whether the fields of a value are those of a document: a window, importances that are texts and
not empty, and events. -/
structure IsIn (document : RuleDocument) (fields : Fields) : Prop where
  window : document.window.IsIn fields
  priorityOrder : fields.get? "priorityOrder" = some (.array (document.priorityOrder.map .text))
  importances : ∀ importance ∈ document.priorityOrder, importance ≠ []
  events : ∃ events : List Json, fields.get? "events" = some (.array events) ∧
    List.Forall₂ (fun event entry => ∃ own, event = .object own ∧ entry.IsIn own)
      events document.entries

/-- Whether the ids of all entries are different, also of those whose type is unknown, and the
entries of a known type have a date rule. -/
structure IsAcceptable (document : RuleDocument) : Prop where
  distinct : (document.entries.map (·.id)).Nodup
  dateRules : ∀ entry ∈ document.entries, entry.isKnown = true →
    ∃ dateRule, entry.HasDateRule dateRule

end RuleDocument

/-- Whether rules have the window and the importances of a document and are its entries of a known
type, in the same order. -/
structure RuleSet.IsOf (rules : RuleSet) (document : RuleDocument) : Prop where
  window : rules.window = document.window
  priorityOrder : rules.priorityOrder = document.priorityOrder
  rules : List.Forall₂ Rule.IsOf rules.rules (document.entries.filter (·.isKnown))

namespace RuleDocument

theorem textField?_eq_some {fields : Fields} {name text : Text} :
    textField? fields name = some text ↔ fields.HasText name text := by
  simp only [textField?, Option.bind_eq_some_iff, Json.nonEmptyText?_eq_some, Fields.HasText]
  constructor
  · rintro ⟨value, found, rfl, filled⟩
    exact ⟨found, filled⟩
  · rintro ⟨found, filled⟩
    exact ⟨_, found, rfl, filled⟩

theorem integerField_eq_some {fields : Fields} {name : Text} {value : Int} :
    (fields.get? name).bind Json.integer? = some value ↔
      fields.get? name = some (.integer value) := by
  simp only [Option.bind_eq_some_iff, Json.integer?_eq_some, exists_eq_right]

theorem readWindow_eq_ok {fields : Fields} {window : Window Int} :
    readWindow fields = .ok window ↔ window.IsIn fields := by
  simp only [readWindow, bind_eq_ok, require_eq_ok, Option.bind_eq_some_iff, Json.fields?_eq_some,
    Json.integer?_eq_some, exists_eq_right, Window.IsIn, Fields.HasInteger]
  constructor
  · rintro ⟨sides, hasSides, before, hasBefore, after, hasAfter, success⟩
    split at success
    next allowed =>
      cases pure_eq_ok.mp success
      simp only [Bool.and_eq_true, Window.isAllowed_iff] at allowed
      exact ⟨sides, hasSides, ⟨hasBefore, allowed.1⟩, hasAfter, allowed.2⟩
    · exact absurd success throw_ne_ok
  · rintro ⟨sides, hasSides, ⟨hasBefore, before⟩, hasAfter, after⟩
    have allowed : (Window.isAllowed window.daysBefore && Window.isAllowed window.daysAfter) =
        true := by
      simp only [Bool.and_eq_true, Window.isAllowed_iff]
      exact ⟨before, after⟩
    refine ⟨sides, hasSides, _, hasBefore, _, hasAfter, ?_⟩
    rw [if_pos allowed]
    rfl

/-- Values are all texts that are not empty exactly if they are made of such texts. -/
theorem mapM_nonEmptyText?_eq_some {values : List Json} {texts : List Text} :
    values.mapM Json.nonEmptyText? = some texts ↔
      values = texts.map .text ∧ ∀ text ∈ texts, text ≠ [] := by
  induction values generalizing texts with
  | nil => cases texts <;> simp
  | cons value values ih =>
    simp only [List.mapM_cons, Option.bind_eq_bind, Option.bind_eq_some_iff, Option.pure_def,
      Option.some.injEq, Json.nonEmptyText?_eq_some, ih]
    constructor
    · rintro ⟨text, ⟨rfl, filled⟩, texts, ⟨rfl, others⟩, rfl⟩
      exact ⟨rfl, List.forall_mem_cons.mpr ⟨filled, others⟩⟩
    · rintro ⟨same, filled⟩
      cases texts with
      | nil => cases same
      | cons text texts =>
        obtain ⟨rfl, rfl⟩ := List.cons.inj same
        obtain ⟨first, others⟩ := List.forall_mem_cons.mp filled
        exact ⟨text, ⟨rfl, first⟩, texts, ⟨rfl, others⟩, rfl⟩

theorem readPriorityOrder_eq_ok {fields : Fields} {texts : List Text} :
    readPriorityOrder fields = .ok texts ↔
      fields.get? "priorityOrder" = some (.array (texts.map .text)) ∧
        ∀ text ∈ texts, text ≠ [] := by
  simp only [readPriorityOrder, bind_eq_ok, require_eq_ok, Option.bind_eq_some_iff,
    Json.elements?_eq_some, exists_eq_right, mapM_nonEmptyText?_eq_some]
  constructor
  · rintro ⟨items, hasItems, rfl, filled⟩
    exact ⟨hasItems, filled⟩
  · rintro ⟨hasItems, filled⟩
    exact ⟨_, hasItems, rfl, filled⟩

/-- An event is read from an object with the fields of an entry. -/
theorem readEntry_eq_ok {index : Nat} {value : Json} {entry : RuleEntry} :
    readEntry index value = .ok entry ↔ ∃ fields, value = .object fields ∧ entry.IsIn fields := by
  simp only [readEntry, bind_eq_ok, require_eq_ok, textField?_eq_some, Json.fields?_eq_some,
    Option.bind_eq_some_iff, exists_eq_right, pure_eq_ok]
  constructor
  · rintro ⟨fields, rfl, id, hasId, name, hasName, importance, hasImportance, themeId, hasThemeId,
      dateRule, hasDateRule, type, hasType, rfl⟩
    exact ⟨fields, rfl, hasId, hasName, hasImportance, hasThemeId, hasDateRule, hasType⟩
  · rintro ⟨fields, rfl, isIn⟩
    exact ⟨fields, rfl, _, isIn.id, _, isIn.name, _, isIn.importance, _, isIn.themeId, _,
      isIn.dateRule, _, isIn.type, rfl⟩

/-- A document is read from an object with its fields. -/
theorem ofJson_eq_ok {value : Json} {document : RuleDocument} :
    ofJson value = .ok document ↔ ∃ fields, value = .object fields ∧ document.IsIn fields := by
  simp only [ofJson, bind_eq_ok, require_eq_ok, Json.fields?_eq_some, readWindow_eq_ok,
    readPriorityOrder_eq_ok, Option.bind_eq_some_iff, Json.elements?_eq_some, exists_eq_right,
    readEntries_eq_ok, readEntry_eq_ok, pure_eq_ok]
  constructor
  · rintro ⟨fields, rfl, window, hasWindow, texts, ⟨hasOrder, filled⟩, events, hasEvents, entries,
      read, rfl⟩
    exact ⟨fields, rfl, hasWindow, hasOrder, filled, events, hasEvents, read⟩
  · rintro ⟨fields, rfl, isIn⟩
    obtain ⟨events, hasEvents, read⟩ := isIn.events
    exact ⟨fields, rfl, _, isIn.window, _, ⟨isIn.priorityOrder, isIn.importances⟩, events,
      hasEvents, _, read, rfl⟩

end RuleDocument

namespace RuleEntry

variable {entry : RuleEntry}

theorem countField?_eq_some_iff {name : Text} {most : Int} {count : Nat} :
    entry.countField? name most = some count ↔ entry.dateRule.HasInteger name 1 most count := by
  rw [countField?_eq_some, RuleDocument.integerField_eq_some, Fields.HasInteger]
  refine and_congr_right fun _ => and_congr_left fun _ => ?_
  omega

/-- An entry of a known type gives its date rule, and it is refused without one. -/
theorem readDateRule_eq_some {dateRule : DateRule} :
    entry.readDateRule = .ok (some dateRule) ↔ entry.HasDateRule dateRule := by
  constructor
  · intro success
    unfold readDateRule at success
    split at success
    next type =>
      simp only [bind_eq_ok, RuleDocument.require_eq_ok, RuleDocument.textField?_eq_some] at success
      obtain ⟨source, text, success⟩ := success
      split at success
      next pattern compiled =>
        cases pure_eq_ok.mp success
        exact .calendar type text compiled
      · exact absurd success throw_ne_ok
    · split at success
      next type =>
        simp only [bind_eq_ok, RuleDocument.require_eq_ok, countField?_eq_some_iff] at success
        obtain ⟨month, isMonth, day, isDay, success⟩ := success
        cases pure_eq_ok.mp success
        exact .fixed type isMonth isDay
      · cases pure_eq_ok.mp success
  · intro hasDateRule
    cases hasDateRule with
    | calendar type text compiled =>
      rw [readDateRule, if_pos type, RuleDocument.textField?_eq_some.mpr text]
      refine bind_eq_ok.mpr ⟨_, rfl, ?_⟩
      rw [compiled]
      rfl
    | fixed type isMonth isDay =>
      have notCalendar : entry.type ≠ "calendar" := by
        rw [type]
        decide
      rw [readDateRule, if_neg notCalendar, if_pos type, countField?_eq_some_iff.mpr isMonth,
        countField?_eq_some_iff.mpr isDay]
      rfl

theorem HasDateRule.isKnown {dateRule : DateRule} (hasDateRule : entry.HasDateRule dateRule) :
    entry.isKnown = true := by
  cases hasDateRule with
  | calendar type => simp [RuleEntry.isKnown, type]
  | fixed type => simp [RuleEntry.isKnown, type]

/-- An entry gives no date rule exactly if its type is unknown. -/
theorem readDateRule_eq_none : entry.readDateRule = .ok none ↔ entry.isKnown = false := by
  unfold readDateRule isKnown
  by_cases calendar : entry.type = "calendar"
  · simp only [calendar, if_true, beq_self_eq_true, Bool.true_or, reduceCtorEq, iff_false]
    intro success
    obtain ⟨source, -, success⟩ := bind_eq_ok.mp success
    split at success
    · cases pure_eq_ok.mp success
    · exact absurd success throw_ne_ok
  · by_cases fixed : entry.type = "fixed"
    · simp only [fixed, if_true, beq_self_eq_true, Bool.or_true, reduceCtorEq, iff_false]
      intro success
      obtain ⟨month, -, success⟩ := bind_eq_ok.mp success
      obtain ⟨day, -, success⟩ := bind_eq_ok.mp success
      cases pure_eq_ok.mp success
    · simp [calendar, fixed, pure_eq_ok]

/-- An entry gives a rule with its texts and its date rule, or nothing if its type is unknown. -/
theorem gives_some {rule : Rule} : RuleSet.Gives entry (some rule) ↔ rule.IsOf entry := by
  constructor
  · rintro ⟨found, read, same⟩
    obtain ⟨dateRule, rfl, rfl⟩ := Option.map_eq_some_iff.mp same
    exact ⟨rfl, rfl, rfl, rfl, readDateRule_eq_some.mp read⟩
  · rintro ⟨id, name, importance, themeId, dateRule⟩
    refine ⟨some rule.dateRule, readDateRule_eq_some.mpr dateRule, ?_⟩
    rw [Option.map_some, toRule, ← id, ← name, ← importance, ← themeId]

theorem gives_none : RuleSet.Gives entry none ↔ entry.isKnown = false := by
  rw [← readDateRule_eq_none]
  constructor
  · rintro ⟨found, read, same⟩
    cases Option.map_eq_none_iff.mp same
    exact read
  · intro read
    exact ⟨none, read, rfl⟩

end RuleEntry

namespace RuleSet

/-- What entries give, without what is nothing, are the rules of the entries of a known type. -/
theorem exists_gives_iff {entries : List RuleEntry} {rules : List Rule} :
    (∃ found, List.Forall₂ Gives entries found ∧ found.reduceOption = rules) ↔
      List.Forall₂ Rule.IsOf rules (entries.filter (·.isKnown)) := by
  induction entries generalizing rules with
  | nil => simp [eq_comm]
  | cons entry entries ih =>
    cases known : entry.isKnown with
    | false =>
      rw [List.filter_cons_of_neg (by simp [known]), ← ih]
      constructor
      · rintro ⟨found, gives, rfl⟩
        cases gives with
        | @cons _ rule _ found first rest =>
          cases rule with
          | none => exact ⟨found, rest, rfl⟩
          | some rule =>
            have isKnown := (RuleEntry.gives_some.mp first).dateRule.isKnown
            rw [known] at isKnown
            cases isKnown
      · rintro ⟨found, gives, rfl⟩
        exact ⟨none :: found, .cons (RuleEntry.gives_none.mpr known) gives, rfl⟩
    | true =>
      rw [List.filter_cons_of_pos known]
      constructor
      · rintro ⟨found, gives, rfl⟩
        cases gives with
        | @cons _ rule _ found first rest =>
          cases rule with
          | none =>
            have isUnknown := RuleEntry.gives_none.mp first
            rw [known] at isUnknown
            cases isUnknown
          | some rule =>
            exact .cons (RuleEntry.gives_some.mp first) (ih.mp ⟨found, rest, rfl⟩)
      · intro isOf
        cases isOf with
        | cons first rest =>
          obtain ⟨found, gives, rfl⟩ := ih.mpr rest
          exact ⟨some _ :: found, .cons (RuleEntry.gives_some.mpr first) gives, rfl⟩

/-- There are rules of entries that each have a date rule. -/
theorem exists_isOf_iff {entries : List RuleEntry} :
    (∃ rules, List.Forall₂ Rule.IsOf rules entries) ↔
      ∀ entry ∈ entries, ∃ dateRule, entry.HasDateRule dateRule := by
  induction entries with
  | nil => simp
  | cons entry entries ih =>
    rw [List.forall_mem_cons, ← ih]
    constructor
    · rintro ⟨rules, isOf⟩
      cases isOf with
      | cons first rest => exact ⟨⟨_, first.dateRule⟩, _, rest⟩
    · rintro ⟨⟨dateRule, hasDateRule⟩, rules, rest⟩
      exact ⟨entry.toRule dateRule :: rules, .cons ⟨rfl, rfl, rfl, rfl, hasDateRule⟩ rest⟩

/-- Rules are read from an object with the fields of an acceptable document, and are its own. -/
theorem ofJson_eq_ok {value : Json} {rules : RuleSet} :
    ofJson value = .ok rules ↔ ∃ fields document, value = .object fields ∧
      RuleDocument.IsIn document fields ∧ document.IsAcceptable ∧ rules.IsOf document := by
  simp only [ofJson, ofDocument, bind_eq_ok, RuleDocument.ofJson_eq_ok, readRules_eq_ok,
    exists_gives_iff, pure_eq_ok]
  constructor
  · rintro ⟨document, ⟨fields, rfl, isIn⟩, _, ⟨⟨distinct, -⟩, isOf⟩, rfl⟩
    have dateRules := exists_isOf_iff.mp ⟨_, isOf⟩
    simp only [List.mem_filter, and_imp] at dateRules
    exact ⟨fields, document, rfl, isIn, ⟨distinct, dateRules⟩, rfl, rfl, isOf⟩
  · rintro ⟨fields, document, rfl, isIn, acceptable, window, priorityOrder, isOf⟩
    refine ⟨document, ⟨fields, rfl, isIn⟩, _, ⟨⟨acceptable.distinct, by simp⟩, isOf⟩, ?_⟩
    rw [← window, ← priorityOrder]

/-- A value gives rules exactly if it is a document of the grammar, and then they are those of that
document. -/
theorem ofJson_eq_ok_iff (value : Json) :
    ((∃ rules, ofJson value = .ok rules) ↔ ∃ fields document, value = .object fields ∧
      RuleDocument.IsIn document fields ∧ document.IsAcceptable) ∧
    ∀ rules, ofJson value = .ok rules ↔ ∃ fields document, value = .object fields ∧
      RuleDocument.IsIn document fields ∧ document.IsAcceptable ∧ rules.IsOf document := by
  refine ⟨?_, fun rules => ofJson_eq_ok⟩
  constructor
  · rintro ⟨rules, accepted⟩
    obtain ⟨fields, document, isObject, isIn, acceptable, -⟩ := ofJson_eq_ok.mp accepted
    exact ⟨fields, document, isObject, isIn, acceptable⟩
  · rintro ⟨fields, document, isObject, isIn, acceptable⟩
    have dateRules : ∀ entry ∈ document.entries.filter (·.isKnown),
        ∃ dateRule, entry.HasDateRule dateRule := by
      intro entry member
      obtain ⟨isEntry, known⟩ := List.mem_filter.mp member
      exact acceptable.dateRules entry isEntry known
    obtain ⟨rules, isOf⟩ := exists_isOf_iff.mpr dateRules
    exact ⟨⟨document.window, document.priorityOrder, rules⟩,
      ofJson_eq_ok.mpr ⟨fields, document, isObject, isIn, acceptable, rfl, rfl, isOf⟩⟩

end RuleSet

end Observance

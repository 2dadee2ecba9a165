import Mathlib.Data.List.Perm.Basic
import Mathlib.Data.List.ReduceOption
import Observance.Proofs.Json.Fields
import Observance.Proofs.Rule.Document

/-! # Reordered rule documents

Each event of a document is read on its own: its place only matters for the wording of an error,
and the events before it only for its id. So a document with its events in another order is
accepted too, and gives the same rules in another order.
-/

namespace Observance

open Result

namespace RuleDocument

theorem readEntry_eq_ok_at (index other : Nat) {value : Json} {entry : RuleEntry} :
    readEntry index value = .ok entry ↔ readEntry other value = .ok entry := by
  simp only [readEntry, bind_eq_ok, require_eq_ok]

/-- Entries are read one by one. -/
theorem readEntries_eq_ok {index : Nat} {values : List Json} {entries : List RuleEntry} :
    readEntries index values = .ok entries ↔
      List.Forall₂ (fun value entry => readEntry 0 value = .ok entry) values entries := by
  induction values generalizing index entries with
  | nil => simp [readEntries, eq_comm]
  | cons value values ih =>
    simp only [readEntries, bind_eq_ok, pure_eq_ok, List.forall₂_cons_left_iff, ih,
      readEntry_eq_ok_at index 0]
    constructor
    · rintro ⟨entry, first, entries, rest, rfl⟩
      exact ⟨entry, entries, first, rest, rfl⟩
    · rintro ⟨entry, entries, first, rest, rfl⟩
      exact ⟨entry, first, entries, rest, rfl⟩

variable {fields : Fields} {events reordered : List Json}

/-- A document of the right shape keeps it when its events are reordered. -/
theorem exists_ofJson_reordered {document : RuleDocument}
    (listed : fields.get? "events" = some (.array events)) (same : reordered.Perm events)
    (accepted : ofJson (.object fields) = .ok document) :
    ∃ entries, ofJson (.object (fields.put "events" (.array reordered))) =
      .ok { document with entries } ∧ entries.Perm document.entries := by
  simp only [ofJson, bind_eq_ok, require_eq_ok, Json.fields?, Option.some.injEq, exists_eq_left',
    listed, Option.bind_some, Json.elements?, readEntries_eq_ok, pure_eq_ok] at accepted
  obtain ⟨window, hasWindow, priorityOrder, hasPriorityOrder, entries, read, rfl⟩ := accepted
  obtain ⟨others, readOthers, sameEntries⟩ := List.perm_comp_forall₂ same read
  refine ⟨others, ?_, sameEntries⟩
  have keepsWindow : (fields.put "events" (.array reordered)).get? "window" =
      fields.get? "window" :=
    by rw [Fields.get?_put, if_neg (by decide)]
  have keepsOrder : (fields.put "events" (.array reordered)).get? "priorityOrder" =
      fields.get? "priorityOrder" := by rw [Fields.get?_put, if_neg (by decide)]
  have hasEvents : (fields.put "events" (.array reordered)).get? "events" =
      some (.array reordered) := by rw [Fields.get?_put, if_pos rfl]
  rw [readWindow, ← keepsWindow, ← readWindow] at hasWindow
  rw [readPriorityOrder, ← keepsOrder, ← readPriorityOrder] at hasPriorityOrder
  simp only [ofJson, bind_eq_ok, require_eq_ok, Json.fields?, Option.some.injEq, exists_eq_left',
    hasEvents, Option.bind_some, Json.elements?, readEntries_eq_ok, pure_eq_ok]
  exact ⟨window, hasWindow, priorityOrder, hasPriorityOrder, others, readOthers, rfl⟩

end RuleDocument

namespace RuleSet

/-- What an entry gives: a rule, or none if its type is unknown. -/
def Gives (entry : RuleEntry) (rule : Option Rule) : Prop :=
  ∃ dateRule, entry.readDateRule = .ok dateRule ∧ dateRule.map entry.toRule = rule

/-- Rules are read from entries with new ids one by one. -/
theorem readRules_eq_ok {earlier : List Text} {entries : List RuleEntry} {rules : List Rule} :
    readRules earlier entries = .ok rules ↔
      ((entries.map (·.id)).Nodup ∧ ∀ entry ∈ entries, entry.id ∉ earlier) ∧
        ∃ found, List.Forall₂ Gives entries found ∧ found.reduceOption = rules := by
  induction entries generalizing earlier rules with
  | nil => simp [readRules, eq_comm]
  | cons entry entries ih =>
    simp only [readRules, bind_eq_ok, pure_eq_ok, RuleEntry.readRule_eq_ok, ih, List.map_cons,
      List.nodup_cons, List.mem_cons, forall_eq_or_imp, not_or, List.forall₂_cons_left_iff]
    constructor
    · rintro ⟨rule, ⟨new, gives⟩, _, ⟨⟨distinct, later⟩, found, rest, rfl⟩, rfl⟩
      refine ⟨⟨⟨?_, distinct⟩, new, fun other member => (later other member).2⟩, rule :: found,
        ⟨rule, found, gives, rest, rfl⟩, ?_⟩
      · rintro repeated
        obtain ⟨other, member, same⟩ := List.mem_map.mp repeated
        exact (later other member).1 same
      · cases rule <;> simp [List.reduceOption]
    · rintro ⟨⟨⟨unrepeated, distinct⟩, new, later⟩, _, ⟨rule, found, gives, rest, rfl⟩, rfl⟩
      refine ⟨rule, ⟨new, gives⟩, _, ⟨⟨distinct, fun other member => ⟨fun same => ?_,
        later other member⟩⟩, found, rest, rfl⟩, ?_⟩
      · exact unrepeated (List.mem_map.mpr ⟨other, member, same⟩)
      · cases rule <;> simp [List.reduceOption]

/-- An accepted document with its events in another order is accepted, and gives the same rules in
another order. -/
theorem exists_ofJson_reordered {fields : Fields} {events reordered : List Json} {rules : RuleSet}
    (listed : fields.get? "events" = some (.array events)) (same : reordered.Perm events)
    (accepted : ofJson (.object fields) = .ok rules) :
    ∃ others, ofJson (.object (fields.put "events" (.array reordered))) =
      .ok { rules with rules := others } ∧ others.Perm rules.rules := by
  simp only [ofJson, ofDocument, bind_eq_ok, pure_eq_ok, readRules_eq_ok] at accepted
  obtain ⟨document, isDocument, _, ⟨⟨distinct, new⟩, found, gives, rfl⟩, rfl⟩ := accepted
  obtain ⟨entries, isReordered, sameEntries⟩ :=
    RuleDocument.exists_ofJson_reordered listed same isDocument
  obtain ⟨others, givesOthers, sameRules⟩ := List.perm_comp_forall₂ sameEntries gives
  refine ⟨others.reduceOption, ?_, sameRules.filterMap _⟩
  simp only [ofJson, ofDocument, bind_eq_ok, pure_eq_ok, readRules_eq_ok]
  refine ⟨_, isReordered, _, ⟨⟨?_, fun _ _ => List.not_mem_nil⟩, others, givesOthers, rfl⟩, rfl⟩
  exact (sameEntries.map _).nodup_iff.mpr distinct

end RuleSet

end Observance

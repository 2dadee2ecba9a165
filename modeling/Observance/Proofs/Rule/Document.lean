import Observance.Proofs.Result
import Observance.Rule.Document

/-! # Accepted rule documents

What is checked while a document is read holds of the rules that it gives: their window is allowed,
their texts are not empty, and a fixed day is one that some month has. Reading adds no rule of its
own, so these facts are shown for one entry and carried along the list of entries.
-/

namespace Observance

open Result

namespace DateRule

/-- A fixed day has a month of the year and a day that some month has. -/
def IsUsable : DateRule → Prop
  | .calendar _ => True
  | .fixed month day => (1 ≤ month ∧ month ≤ 12) ∧ 1 ≤ day ∧ day ≤ 31

end DateRule

/-- No text of the entry that events take over is empty. -/
structure RuleEntry.IsUsable (entry : RuleEntry) : Prop where
  id : entry.id ≠ []
  name : entry.name ≠ []
  importance : entry.importance ≠ []
  themeId : entry.themeId ≠ []

/-- No text of the rule is empty, and a fixed day is one that some month has. -/
structure Rule.IsUsable (rule : Rule) : Prop where
  id : rule.id ≠ []
  name : rule.name ≠ []
  importance : rule.importance ≠ []
  themeId : rule.themeId ≠ []
  dateRule : rule.dateRule.IsUsable

/-- Both sides of the window are in the bounds for documents. -/
structure Window.IsUsable (window : Window Int) : Prop where
  daysBefore : isAllowed window.daysBefore = true
  daysAfter : isAllowed window.daysAfter = true

theorem Window.nonneg_of_isAllowed {days : Int} (allowed : isAllowed days = true) : 0 ≤ days := by
  simp only [isAllowed, Bool.and_eq_true, decide_eq_true_eq] at allowed
  exact allowed.1

/-- The window and all rules are usable. -/
structure RuleSet.IsUsable (rules : RuleSet) : Prop where
  window : rules.window.IsUsable
  rules : ∀ rule ∈ rules.rules, rule.IsUsable

namespace Json

theorem nonEmptyText?_eq_some {value : Json} {text : Text} :
    value.nonEmptyText? = some text ↔ value = .text text ∧ text ≠ [] := by
  cases value with
  | text found =>
    simp only [nonEmptyText?, List.isEmpty_iff]
    split <;> grind
  | _ => simp [nonEmptyText?]

end Json

namespace RuleDocument

theorem require_eq_ok {error : RuleError} {found : Option α} {value : α} :
    require error found = .ok value ↔ found = some value := by
  cases found <;> simp [require]

theorem ne_empty_of_textField? {fields : Fields} {name text : Text}
    (found : textField? fields name = some text) : text ≠ [] := by
  obtain ⟨_, -, isText⟩ := Option.bind_eq_some_iff.mp found
  exact (Json.nonEmptyText?_eq_some.mp isText).2

theorem isUsable_of_readWindow {fields : Fields} {window : Window Int}
    (success : readWindow fields = .ok window) : window.IsUsable := by
  simp only [readWindow, bind_eq_ok] at success
  obtain ⟨sides, -, before, -, after, -, success⟩ := success
  split at success
  next allowed =>
    cases pure_eq_ok.mp success
    rw [Bool.and_eq_true] at allowed
    exact ⟨allowed.1, allowed.2⟩
  · exact absurd success throw_ne_ok

theorem isUsable_of_readEntry {index : Nat} {value : Json} {entry : RuleEntry}
    (success : readEntry index value = .ok entry) : entry.IsUsable := by
  simp only [readEntry, bind_eq_ok, require_eq_ok] at success
  obtain ⟨fields, -, id, hasId, name, hasName, importance, hasImportance, themeId, hasThemeId,
    dateRule, -, type, -, success⟩ := success
  cases pure_eq_ok.mp success
  exact ⟨ne_empty_of_textField? hasId, ne_empty_of_textField? hasName,
    ne_empty_of_textField? hasImportance, ne_empty_of_textField? hasThemeId⟩

theorem isUsable_of_readEntries {index : Nat} {values : List Json} {entries : List RuleEntry}
    (success : readEntries index values = .ok entries) : ∀ entry ∈ entries, entry.IsUsable := by
  induction values generalizing index entries with
  | nil =>
    cases success
    simp
  | cons value values ih =>
    simp only [readEntries, bind_eq_ok] at success
    obtain ⟨entry, first, others, rest, success⟩ := success
    cases pure_eq_ok.mp success
    exact List.forall_mem_cons.mpr ⟨isUsable_of_readEntry first, ih rest⟩

/-- A document of the right shape has a usable window and usable entries. -/
theorem isUsable_of_ofJson {value : Json} {document : RuleDocument}
    (success : ofJson value = .ok document) :
    document.window.IsUsable ∧ ∀ entry ∈ document.entries, entry.IsUsable := by
  simp only [ofJson, bind_eq_ok] at success
  obtain ⟨fields, -, window, hasWindow, priorityOrder, -, events, -, entries, hasEntries,
    success⟩ := success
  cases pure_eq_ok.mp success
  exact ⟨isUsable_of_readWindow hasWindow, isUsable_of_readEntries hasEntries⟩

end RuleDocument

namespace RuleEntry

theorem countField?_eq_some {entry : RuleEntry} {name : Text} {most : Int} {count : Nat} :
    entry.countField? name most = some count ↔
      (entry.dateRule.get? name).bind Json.integer? = some (count : Int) ∧
        1 ≤ count ∧ (count : Int) ≤ most := by
  unfold countField?
  cases (entry.dateRule.get? name).bind Json.integer? with
  | none => simp
  | some value =>
    simp only [Option.ite_none_right_eq_some, Option.some.injEq]
    omega

theorem isUsable_of_readDateRule {entry : RuleEntry} {room : Room} {dateRule : DateRule}
    (success : entry.readDateRule room = .ok (some dateRule)) : dateRule.IsUsable := by
  unfold readDateRule at success
  split at success
  · obtain ⟨source, -, success⟩ := bind_eq_ok.mp success
    split at success
    · cases pure_eq_ok.mp success
      trivial
    · exact absurd success throw_ne_ok
  · split at success
    · simp only [bind_eq_ok, RuleDocument.require_eq_ok, countField?_eq_some] at success
      obtain ⟨month, ⟨-, monthBounds⟩, day, ⟨-, dayBounds⟩, success⟩ := success
      cases pure_eq_ok.mp success
      simp only [DateRule.IsUsable]
      omega
    · cases pure_eq_ok.mp success

theorem readRule_eq_ok {earlier : List Text} {entry : RuleEntry} {room : Room}
    {found : Option Rule} : entry.readRule earlier room = .ok found ↔ entry.id ∉ earlier ∧
      ∃ dateRule, entry.readDateRule room = .ok dateRule ∧ dateRule.map entry.toRule = found := by
  unfold readRule
  by_cases known : entry.id ∈ earlier
  · simp [known, bind, Except.bind, throw, throwThe, MonadExceptOf.throw]
  · simp only [List.contains_iff_mem, known, if_false, bind_eq_ok, pure_eq_ok]
    simp

theorem isUsable_of_readRule {earlier : List Text} {entry : RuleEntry} {room : Room} {rule : Rule}
    (usable : entry.IsUsable) (success : entry.readRule earlier room = .ok (some rule)) :
    rule.IsUsable := by
  obtain ⟨-, found, read, same⟩ := readRule_eq_ok.mp success
  obtain ⟨dateRule, rfl, rfl⟩ := Option.map_eq_some_iff.mp same
  exact ⟨usable.id, usable.name, usable.importance, usable.themeId, isUsable_of_readDateRule read⟩

end RuleEntry

namespace RuleSet

variable {room : Room}

theorem isUsable_of_readRules {earlier : List Text} {entries : List RuleEntry}
    {rules : List Rule} (usable : ∀ entry ∈ entries, entry.IsUsable)
    (success : readRules earlier entries room = .ok rules) : ∀ rule ∈ rules, rule.IsUsable := by
  induction entries generalizing earlier rules with
  | nil =>
    cases success
    simp
  | cons entry entries ih =>
    obtain ⟨usableEntry, usableRest⟩ := List.forall_mem_cons.mp usable
    simp only [readRules, bind_eq_ok] at success
    obtain ⟨found, first, others, rest, success⟩ := success
    cases pure_eq_ok.mp success
    intro rule member
    rcases List.mem_append.mp member with member | member
    · rw [Option.mem_toList] at member
      exact RuleEntry.isUsable_of_readRule usableEntry (member ▸ first)
    · exact ih usableRest rest rule member

/-- The ids of rules are distinct, and none of them is one of an earlier entry. -/
theorem nodup_ids_of_readRules {earlier : List Text} {entries : List RuleEntry}
    {rules : List Rule} (success : readRules earlier entries room = .ok rules) :
    (rules.map (·.id)).Nodup ∧ ∀ rule ∈ rules, rule.id ∉ earlier := by
  induction entries generalizing earlier rules with
  | nil =>
    cases success
    simp
  | cons entry entries ih =>
    simp only [readRules, bind_eq_ok] at success
    obtain ⟨found, first, others, rest, success⟩ := success
    cases pure_eq_ok.mp success
    obtain ⟨distinct, new⟩ := ih rest
    obtain ⟨unseen, dateRule, -, rfl⟩ := RuleEntry.readRule_eq_ok.mp first
    have later : ∀ rule ∈ others, rule.id ≠ entry.id ∧ rule.id ∉ earlier := by
      intro rule member
      simpa only [List.mem_cons, not_or] using new rule member
    cases dateRule with
    | none => exact ⟨distinct, fun rule member => (later rule member).2⟩
    | some dateRule =>
      refine ⟨List.nodup_cons.mpr ⟨?_, distinct⟩, ?_⟩
      · intro repeated
        obtain ⟨rule, member, same⟩ := List.mem_map.mp repeated
        exact (later rule member).1 same
      · exact List.forall_mem_cons.mpr ⟨unseen, fun rule member => (later rule member).2⟩

/-- The ids of the rules in an accepted rule document are distinct. -/
theorem nodup_ids_of_ofJson {value : Json} {rules : RuleSet}
    (success : ofJson value room = .ok rules) : (rules.rules.map (·.id)).Nodup := by
  simp only [ofJson, ofDocument, bind_eq_ok] at success
  obtain ⟨document, -, found, hasRules, success⟩ := success
  cases pure_eq_ok.mp success
  exact (nodup_ids_of_readRules hasRules).1

/-- Everything in an accepted rule document is usable. -/
theorem isUsable_of_ofJson {value : Json} {rules : RuleSet}
    (success : ofJson value room = .ok rules) : rules.IsUsable := by
  simp only [ofJson, ofDocument, bind_eq_ok] at success
  obtain ⟨document, read, found, hasRules, success⟩ := success
  cases pure_eq_ok.mp success
  obtain ⟨window, entries⟩ := RuleDocument.isUsable_of_ofJson read
  exact ⟨window, isUsable_of_readRules entries hasRules⟩

end RuleSet

end Observance

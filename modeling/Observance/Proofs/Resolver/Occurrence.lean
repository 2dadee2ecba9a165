import Observance.Proofs.Resolver.Entries
import Observance.Proofs.Rule.Document
import Observance.Proofs.Theme.Activity

/-! # Occurrences of fixed days

A rule with a fixed day occurs in every year, and resolving takes over the occurrences of this year
and of the next. An occurrence in an earlier year may still be shown, on the first days of a year.
It is then missing from the entries, and so is one after the next year that may already be shown,
if the window reaches ahead as far as any.
-/

namespace Observance.Resolver

open Calendar Result

variable {resolver : Resolver} {feed : List FeedEvent} {rule : Rule} {events : List (Event Text)}

/-- An occurrence of a fixed day is an entry of its rule exactly if it is one of this year or of the
next. -/
theorem exists_entry_iff {rules : List Rule} {month day year : Nat} {occurrence : Date}
    (distinct : (rules.map (·.id)).Nodup) (usable : (DateRule.fixed month day).IsUsable)
    (resolved : resolver.resolve rules feed = .ok events) (known : rule ∈ rules)
    (fixed : rule.dateRule = .fixed month day)
    (falls : Date.ofRunningDay year month day = .ok occurrence) :
    (∃ entry ∈ entriesOf rule events, entry.startDate = occurrence.text) ↔
      year = resolver.today.year ∨ year = resolver.today.year + 1 := by
  obtain ⟨current, next, thisYear, nextYear, same⟩ :=
    exists_entriesOf_fixed distinct resolved known fixed
  have isYear := Date.year_of_ofRunningDay usable.2 falls
  have isThisYear := Date.year_of_ofRunningDay usable.2 thisYear
  have isNextYear := Date.year_of_ofRunningDay usable.2 nextYear
  simp only [same.mem_iff, List.mem_cons, List.not_mem_nil, or_false, exists_eq_or_imp,
    exists_eq_left, resolvedEvent]
  constructor
  · rintro (text | text)
    · exact .inl (by rw [← isYear, ← isThisYear, Date.text_injective text])
    · exact .inr (by rw [← isYear, ← isNextYear, Date.text_injective text])
  · rintro (rfl | rfl)
    · rw [thisYear] at falls
      cases falls
      exact .inl rfl
    · rw [nextYear] at falls
      cases falls
      exact .inr rfl

/-- A window covers a day only for an occurrence in its year or in the next, unless the day is one
of the first of its year, or the last one and the window reaches ahead as far as any. -/
theorem early_or_last_of_covers {window : Window Int} {occurrence today : Date}
    (usable : window.IsUsable) (covers : Theme.Covers window occurrence occurrence today) :
    (occurrence.year = today.year ∨ occurrence.year = today.year + 1) ∨
      today.number ≤ daysBeforeYear today.year + window.daysAfter ∨
        window.daysBefore = Window.mostDays ∧
          today.number = daysBeforeYear (today.year + 1) := by
  obtain ⟨-, lower, upper⟩ := covers
  obtain ⟨begun, within⟩ := occurrence.number_mem_year
  obtain ⟨-, inYear⟩ := today.number_mem_year
  have bound : window.daysBefore ≤ Window.mostDays := by
    have allowed := usable.daysBefore
    simp only [Window.isAllowed, Bool.and_eq_true, decide_eq_true_eq] at allowed
    exact allowed.2
  rw [Window.mostDays] at bound ⊢
  rcases Nat.lt_or_ge occurrence.year today.year with earlier | notEarlier
  · have years := daysBeforeYear_mono (Nat.le_add_left 1 occurrence.year)
      (Nat.succ_le_of_lt earlier)
    omega
  · rcases Nat.lt_or_ge occurrence.year (today.year + 2) with near | later
    · omega
    · have years := daysBeforeYear_mono (Nat.le_add_left 1 (today.year + 1)) later
      have next := daysBeforeYear_succ (Nat.le_add_left 1 today.year)
      rw [daysBeforeMonth_thirteen] at next
      omega

/-- The entries of a rule with a fixed day have its occurrences of this year and of the next, and no
others. So an occurrence for which the current day is covered is missing only on the first days of a
year, or on the last one if the window reaches ahead as far as any. -/
theorem occurrence_resolved_iff {value : Json} {rules : RuleSet} {month day year : Nat}
    {occurrence : Date} (accepted : RuleSet.ofJson value = .ok rules)
    (resolved : resolver.resolve rules.rules feed = .ok events) (known : rule ∈ rules.rules)
    (fixed : rule.dateRule = .fixed month day)
    (falls : Date.ofRunningDay year month day = .ok occurrence) :
    ((∃ entry ∈ entriesOf rule events, entry.startDate = occurrence.text) ↔
      year = resolver.today.year ∨ year = resolver.today.year + 1) ∧
    (Theme.Covers rules.window occurrence occurrence resolver.today →
      (∃ entry ∈ entriesOf rule events, entry.startDate = occurrence.text) ∨
        resolver.today.number ≤ daysBeforeYear resolver.today.year + rules.window.daysAfter ∨
        rules.window.daysBefore = Window.mostDays ∧
          resolver.today.number = daysBeforeYear (resolver.today.year + 1)) := by
  have usable := RuleSet.isUsable_of_ofJson accepted
  have isFixed := (usable.rules rule known).dateRule
  rw [fixed] at isFixed
  have present := exists_entry_iff (RuleSet.nodup_ids_of_ofJson accepted) isFixed resolved known
    fixed falls
  refine ⟨present, fun covers => ?_⟩
  rw [present, ← Date.year_of_ofRunningDay isFixed.2 falls]
  exact early_or_last_of_covers usable.window covers

section NewYear

/-- A document with one rule, for the last day of the year. -/
def eveDocument : Json :=
  .object [
    ("window", .object [("daysBefore", .integer 5), ("daysAfter", .integer 2)]),
    ("priorityOrder", .array [.text "national"]),
    ("events", .array [.object [
      ("id", .text "eve"), ("name", .text "New Year's Eve"), ("importance", .text "national"),
      ("themeId", .text "fireworks"),
      ("dateRule", .object [("type", .text "fixed"), ("month", .integer 12),
         ("day", .integer 31)])]])]

def eveRule : Rule :=
  { id := "eve", name := "New Year's Eve", importance := "national", themeId := "fireworks"
    dateRule := .fixed 12 31 }

def eveRules : RuleSet := ⟨⟨5, 2⟩, ["national"], [eveRule]⟩

def newYear : Resolver := ⟨⟨2025, 1, 1, by decide⟩, ⟨2026, 7, 1, by decide⟩⟩

theorem ofJson_eveDocument : RuleSet.ofJson eveDocument = .ok eveRules := by rfl

theorem make_newYear : make newYear.today = .ok newYear := by rfl

theorem resolve_newYear : ∃ events, newYear.resolve eveRules.rules [] = .ok events :=
  exists_of_isSome_toOption (by decide +kernel)

theorem ofRunningDay_eve :
    Date.ofRunningDay (2024 : Nat) (12 : Nat) (31 : Nat) = .ok ⟨2024, 12, 31, by decide⟩ := by
  decide +kernel

/-- On New Year's Day, yesterday's occurrence is missing. -/
theorem occurrence_resolved_iff_newYear : ∃ events,
    newYear.resolve eveRules.rules [] = .ok events ∧
      ¬ ∃ entry ∈ entriesOf eveRule events, entry.startDate = "2024-12-31" := by
  obtain ⟨events, resolved⟩ := resolve_newYear
  have present := (occurrence_resolved_iff ofJson_eveDocument resolved (List.mem_singleton.mpr rfl)
    rfl ofRunningDay_eve).1
  have text : (⟨2024, 12, 31, by decide⟩ : Date).text = "2024-12-31" := by decide +kernel
  rw [text] at present
  exact ⟨events, resolved, present.not.mpr (by decide)⟩

/-- Not every occurrence for which the current day is covered is among the entries of its rule. -/
theorem exists_covered_missing : ¬ ∀ (value : Json) (rules : RuleSet) (today : Date)
    (resolver : Resolver) (feed : List FeedEvent) (events : List (Event Text)) (rule : Rule)
    (month day year : Nat) (occurrence : Date), RuleSet.ofJson value = .ok rules →
    make today = .ok resolver → resolver.resolve rules.rules feed = .ok events →
    rule ∈ rules.rules → rule.dateRule = .fixed month day →
    Date.ofRunningDay year month day = .ok occurrence →
    Theme.Covers rules.window occurrence occurrence today →
    ∃ entry ∈ entriesOf rule events, entry.startDate = occurrence.text := by
  intro complete
  obtain ⟨events, resolved⟩ := resolve_newYear
  have found := complete eveDocument eveRules newYear.today newYear [] events eveRule 12 31 2024 _
    ofJson_eveDocument make_newYear resolved (List.mem_singleton.mpr rfl) rfl ofRunningDay_eve
    (by decide)
  have missing := exists_entry_iff (RuleSet.nodup_ids_of_ofJson ofJson_eveDocument)
    (show (DateRule.fixed 12 31).IsUsable by simp [DateRule.IsUsable]) resolved
    (List.mem_singleton.mpr rfl) rfl ofRunningDay_eve
  exact absurd (missing.mp found) (by decide)

end NewYear

end Observance.Resolver

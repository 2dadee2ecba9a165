import Observance.Proofs.Calendar.Addition
import Observance.Proofs.Resolver

/-! # The entries of a rule

The ids of the rules in an accepted document are distinct, so the entries of a rule are the events
with its id, and they are what the rule by itself is resolved to: one event or none for a rule with
a pattern, and two events for a rule with a fixed day. The two are those of this year and of the
next. An occurrence in any other year is missing, even on a day on which it would still be shown.
-/

namespace Observance.Resolver

open Calendar Result

variable {resolver : Resolver} {feed : List FeedEvent} {rule : Rule} {rules : List Rule}
  {events : List (Event Text)}

def entriesOf (rule : Rule) (events : List (Event Text)) : List (Event Text) :=
  events.filter (·.id == rule.id)

theorem entriesOf_append (others : List (Event Text)) :
    entriesOf rule (events ++ others) = entriesOf rule events ++ entriesOf rule others :=
  List.filter_append ..

theorem entriesOf_filter (isSelected : Event Text → Bool) :
    entriesOf rule (events.filter isSelected) = (entriesOf rule events).filter isSelected := by
  simp only [entriesOf, List.filter_filter, Bool.and_comm]

/-- The events of a rule have its id. -/
theorem id_of_mem_resolveRule (success : resolver.resolveRule feed rule = .ok events) :
    ∀ event ∈ events, event.id = rule.id := by
  intro event member
  obtain ⟨start, stop, rfl⟩ := exists_of_mem_resolveRule success event member
  rfl

/-- Each event has the id of one of the rules. -/
theorem id_of_mem_resolveAll (success : resolver.resolveAll feed rules = .ok events) :
    ∀ event ∈ events, event.id ∈ rules.map (·.id) := by
  intro event member
  obtain ⟨origin, known, start, stop, rfl⟩ := exists_of_mem_resolveAll success event member
  exact List.mem_map_of_mem known

/-- Among the events of several rules, the entries of one are the events of that rule. -/
theorem entriesOf_resolveAll (distinct : (rules.map (·.id)).Nodup)
    (success : resolver.resolveAll feed rules = .ok events) (known : rule ∈ rules) :
    resolver.resolveRule feed rule = .ok (entriesOf rule events) := by
  induction rules generalizing events with
  | nil => cases known
  | cons first rules ih =>
    simp only [List.map_cons, List.nodup_cons] at distinct
    obtain ⟨new, distinct⟩ := distinct
    obtain ⟨own, resolved, success⟩ := bind_eq_ok.mp success
    obtain ⟨others, rest, success⟩ := bind_eq_ok.mp success
    cases pure_eq_ok.mp success
    have ownIds := id_of_mem_resolveRule resolved
    have otherIds := id_of_mem_resolveAll rest
    rw [entriesOf_append]
    rcases List.mem_cons.mp known with rfl | known
    · have all : entriesOf rule own = own := List.filter_eq_self.mpr fun event member =>
        beq_iff_eq.mpr (ownIds event member)
      have none : entriesOf rule others = [] := by
        refine List.filter_eq_nil_iff.mpr fun event member same => new ?_
        rw [← beq_iff_eq.mp same]
        exact otherIds event member
      rw [all, none, List.append_nil, resolved]
    · have none : entriesOf rule own = [] := by
        refine List.filter_eq_nil_iff.mpr fun event member same => new ?_
        rw [← ownIds event member, beq_iff_eq.mp same]
        exact List.mem_map_of_mem known
      rw [none, List.nil_append]
      exact ih distinct rest known

/-- Among resolved events, the entries of a rule are its events, whatever their order. -/
theorem exists_perm_entriesOf (distinct : (rules.map (·.id)).Nodup)
    (success : resolver.resolve rules feed = .ok events) (known : rule ∈ rules) :
    ∃ own, resolver.resolveRule feed rule = .ok own ∧ (entriesOf rule events).Perm own := by
  obtain ⟨unordered, resolved, success⟩ := bind_eq_ok.mp success
  cases pure_eq_ok.mp success
  exact ⟨_, entriesOf_resolveAll distinct resolved known, (List.mergeSort_perm ..).filter _⟩

section Choice

variable {fits : Text → Except Pattern.SearchFault Bool} {found : List FeedEvent}
  {picked : FeedEvent}

theorem mem_of_soonest? (soonest : soonest? feed = some picked) : picked ∈ feed := by
  induction feed generalizing picked with
  | nil => cases soonest
  | cons first others ih =>
    rw [soonest?] at soonest
    split at soonest
    next other found =>
      split at soonest
      · cases soonest
        exact List.mem_cons_of_mem _ (ih found)
      · cases soonest
        exact List.mem_cons_self ..
    · cases soonest
      exact List.mem_cons_self ..

theorem mem_of_mem_fitting (success : fitting fits feed = .ok found) :
    ∀ event ∈ found, event ∈ feed := by
  induction feed generalizing found with
  | nil =>
    cases success
    simp
  | cons first feed ih =>
    obtain ⟨isFitting, -, success⟩ := bind_eq_ok.mp success
    obtain ⟨others, rest, success⟩ := bind_eq_ok.mp success
    cases pure_eq_ok.mp success
    intro event member
    cases isFitting with
    | false => exact List.mem_cons_of_mem _ (ih rest event member)
    | true =>
      rcases List.mem_cons.mp member with rfl | member
      · exact List.mem_cons_self ..
      · exact List.mem_cons_of_mem _ (ih rest event member)

/-- The event that a rule with a pattern takes is one of the feed. -/
theorem mem_of_choose? (chosen : resolver.choose? fits feed = .ok (some picked)) :
    picked ∈ feed := by
  obtain ⟨found, success, chosen⟩ := bind_eq_ok.mp chosen
  have member := mem_of_soonest? (pure_eq_ok.mp chosen)
  exact mem_of_mem_fitting success picked (List.mem_filter.mp member).1

/-- The only entry of a rule with a pattern is the event that it takes from the feed. -/
theorem entriesOf_of_choose? {pattern : Pattern} (distinct : (rules.map (·.id)).Nodup)
    (success : resolver.resolve rules feed = .ok events)
    (known : rule ∈ rules) (calendar : rule.dateRule = .calendar pattern)
    (chosen : resolver.choose? pattern.search feed = .ok (some picked)) :
    entriesOf rule events =
      [resolvedEvent rule picked.start (picked.stop.getD picked.start)] := by
  obtain ⟨own, resolved, same⟩ := exists_perm_entriesOf distinct success known
  cases resolveRule_eq_ok.mp resolved with
  | calendar isCalendar success =>
    cases calendar.symm.trans isCalendar
    cases chosen.symm.trans success
    exact List.perm_singleton.mp same
  | fixed isFixed => cases calendar.symm.trans isFixed

end Choice

/-- The two entries of a rule with a fixed day are those of this year and of the next. -/
theorem exists_entriesOf_fixed {month day : Nat} (distinct : (rules.map (·.id)).Nodup)
    (success : resolver.resolve rules feed = .ok events) (known : rule ∈ rules)
    (fixed : rule.dateRule = .fixed month day) :
    ∃ current next, Date.ofRunningDay resolver.today.year month day = .ok current ∧
      Date.ofRunningDay (resolver.today.year + 1 : Nat) month day = .ok next ∧
      (entriesOf rule events).Perm
        [resolvedEvent rule current current, resolvedEvent rule next next] := by
  obtain ⟨own, resolved, same⟩ := exists_perm_entriesOf distinct success known
  cases resolveRule_eq_ok.mp resolved with
  | calendar isCalendar => cases fixed.symm.trans isCalendar
  | fixed isFixed thisYear nextYear =>
    cases fixed.symm.trans isFixed
    exact ⟨_, _, thisYear, nextYear, same⟩

end Observance.Resolver

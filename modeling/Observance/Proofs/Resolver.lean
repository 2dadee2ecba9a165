import Observance.Proofs.Calendar.Overflow
import Observance.Proofs.Rule.Document
import Observance.Resolver

/-! # Where resolved events come from

Every resolved event is one of the rules on two days of the calendar, whether it was found in the
feed or falls on the same day of every year. Putting the events in order neither adds nor loses
one. If rules cannot be resolved, one of them cannot; the day of a usable rule never overflows.
-/

namespace Observance.Resolver

open Result

variable {resolver : Resolver} {feed : List FeedEvent} {rule : Rule} {rules : List Rule}
  {events : List (Event Text)}

/-- What a rule is resolved to. -/
inductive Resolves (resolver : Resolver) (feed : List FeedEvent) (rule : Rule) :
    List (Event Text) → Prop
  /-- A rule with a pattern has the days of the event that it takes from the feed. -/
  | calendar {pattern : Pattern} {chosen : Option FeedEvent}
      (isCalendar : rule.dateRule = .calendar pattern)
      (success : resolver.choose? pattern.search feed = .ok chosen) :
    Resolves resolver feed rule (chosen.map fun picked =>
      resolvedEvent rule picked.start (picked.stop.getD picked.start)).toList
  /-- A rule with a fixed day has that day in this year and in the next. -/
  | fixed {month day : Nat} {current next : Date} (isFixed : rule.dateRule = .fixed month day)
      (thisYear : Date.ofRunningDay resolver.today.year month day = .ok current)
      (nextYear : Date.ofRunningDay (resolver.today.year + 1 : Nat) month day = .ok next) :
    Resolves resolver feed rule [resolvedEvent rule current current, resolvedEvent rule next next]

theorem resolveRule_eq_ok :
    resolver.resolveRule feed rule = .ok events ↔ Resolves resolver feed rule events := by
  constructor
  · intro success
    unfold resolveRule at success
    split at success
    next isCalendar =>
      obtain ⟨found, resolved, rfl⟩ := map_eq_ok.mp (mapError_eq_ok.mp success)
      obtain ⟨chosen, taken, isFound⟩ := bind_eq_ok.mp resolved
      cases pure_eq_ok.mp isFound
      exact .calendar isCalendar taken
    next isFixed =>
      simp only [mapError_eq_ok, resolveFixed, resolveInYear, bind_eq_ok, pure_eq_ok] at success
      obtain ⟨_, ⟨current, thisYear, rfl⟩, _, ⟨next, nextYear, rfl⟩, rfl⟩ := success
      exact .fixed isFixed thisYear nextYear
  · intro resolves
    cases resolves with
    | calendar isCalendar success =>
      simp only [resolveRule, isCalendar, resolveCalendar?, success]
      rfl
    | fixed isFixed thisYear nextYear =>
      simp only [resolveRule, isFixed, resolveFixed, resolveInYear, thisYear, nextYear]
      rfl

theorem exists_of_mem_resolveRule (success : resolver.resolveRule feed rule = .ok events) :
    ∀ event ∈ events, ∃ start stop, event = resolvedEvent rule start stop := by
  intro event member
  cases resolveRule_eq_ok.mp success with
  | calendar isCalendar success =>
    obtain ⟨picked, -, rfl⟩ := Option.map_eq_some_iff.mp (Option.mem_toList.mp member)
    exact ⟨_, _, rfl⟩
  | @fixed _ _ current next isFixed thisYear nextYear =>
    simp only [List.mem_cons, List.not_mem_nil, or_false] at member
    rcases member with rfl | rfl
    · exact ⟨current, current, rfl⟩
    · exact ⟨next, next, rfl⟩

theorem exists_of_mem_resolveAll (success : resolver.resolveAll feed rules = .ok events) :
    ∀ event ∈ events, ∃ rule ∈ rules, ∃ start stop, event = resolvedEvent rule start stop := by
  induction rules generalizing events with
  | nil =>
    cases success
    simp
  | cons rule rules ih =>
    obtain ⟨first, resolved, success⟩ := bind_eq_ok.mp success
    obtain ⟨others, rest, success⟩ := bind_eq_ok.mp success
    cases pure_eq_ok.mp success
    intro event member
    rcases List.mem_append.mp member with member | member
    · exact ⟨rule, List.mem_cons_self .., exists_of_mem_resolveRule resolved event member⟩
    · obtain ⟨origin, known, days⟩ := ih rest event member
      exact ⟨origin, List.mem_cons_of_mem _ known, days⟩

/-- A resolved event is one of the rules on two days. -/
theorem exists_of_mem_resolve (success : resolver.resolve rules feed = .ok events) :
    ∀ event ∈ events, ∃ rule ∈ rules, ∃ start stop, event = resolvedEvent rule start stop := by
  obtain ⟨unordered, resolved, success⟩ := bind_eq_ok.mp success
  cases pure_eq_ok.mp success
  intro event member
  exact exists_of_mem_resolveAll resolved event (List.mem_mergeSort.mp member)

section Errors

/-- Rules cannot be resolved on account of the first one that cannot. -/
theorem resolveAll_eq_error {error : ResolutionError} :
    resolver.resolveAll feed rules = .error error ↔ ∃ before rule after events,
      rules = before ++ rule :: after ∧ resolver.resolveAll feed before = .ok events ∧
        resolver.resolveRule feed rule = .error error := by
  constructor
  · intro failure
    induction rules with
    | nil => cases failure
    | cons rule rules ih =>
      rcases bind_eq_error.mp failure with failure | ⟨events, resolved, failure⟩
      · exact ⟨[], rule, rules, [], rfl, rfl, failure⟩
      · rcases bind_eq_error.mp failure with failure | ⟨others, -, failure⟩
        · obtain ⟨before, culprit, after, others, rfl, rest, failure⟩ := ih failure
          refine ⟨rule :: before, culprit, after, events ++ others, rfl, ?_, failure⟩
          exact bind_eq_ok.mpr ⟨events, resolved, bind_eq_ok.mpr ⟨others, rest, rfl⟩⟩
        · exact absurd failure pure_ne_error
  · rintro ⟨before, rule, after, events, rfl, resolved, failure⟩
    induction before generalizing events with
    | nil => exact bind_eq_error.mpr (.inl failure)
    | cons first before ih =>
      obtain ⟨found, passed, resolved⟩ := bind_eq_ok.mp resolved
      obtain ⟨others, resolved, -⟩ := bind_eq_ok.mp resolved
      exact bind_eq_error.mpr (.inr ⟨found, passed, bind_eq_error.mpr (.inl (ih others resolved))⟩)

theorem resolve_eq_error {error : ResolutionError} :
    resolver.resolve rules feed = .error error ↔ resolver.resolveAll feed rules = .error error := by
  simp only [resolve, bind_eq_error, pure_ne_error, and_false, exists_false, or_false]

/-- A search of a feed fails exactly if it fails for an event, wherever that is. -/
theorem exists_fitting_error {fits : Text → Except Pattern.SearchFault Bool} :
    (∃ fault, fitting fits feed = .error fault) ↔
      ∃ event ∈ feed, ∃ fault, fits (event.summary.getD "") = .error fault := by
  induction feed with
  | nil => simp [fitting]
  | cons event feed ih =>
    simp only [List.mem_cons, exists_eq_or_imp, ← ih]
    constructor
    · rintro ⟨fault, failure⟩
      rcases bind_eq_error.mp failure with failure | ⟨isFitting, -, failure⟩
      · exact .inl ⟨fault, failure⟩
      · rcases bind_eq_error.mp failure with failure | ⟨others, -, failure⟩
        · exact .inr ⟨fault, failure⟩
        · exact absurd failure pure_ne_error
    · rintro (⟨fault, failure⟩ | ⟨fault, failure⟩)
      · exact ⟨fault, bind_eq_error.mpr (.inl failure)⟩
      · cases first : fits (event.summary.getD "") with
        | error cause => exact ⟨cause, bind_eq_error.mpr (.inl first)⟩
        | ok isFitting =>
          refine ⟨fault, bind_eq_error.mpr (.inr ⟨isFitting, first, ?_⟩)⟩
          exact bind_eq_error.mpr (.inl failure)

/-- A rule fails in a search exactly if it has a pattern and the search for it fails for some event
of the feed. -/
theorem exists_resolveRule_search :
    (∃ fault, resolver.resolveRule feed rule = .error (.search fault)) ↔
      ∃ pattern, rule.dateRule = .calendar pattern ∧
        ∃ event ∈ feed, ∃ fault, pattern.search (event.summary.getD "") = .error fault := by
  unfold resolveRule
  cases rule.dateRule with
  | calendar pattern =>
    simp only [DateRule.calendar.injEq, exists_eq_left', ← exists_fitting_error,
      mapError_eq_error, map_eq_error, resolveCalendar?, choose?, bind_eq_error, pure_ne_error,
      and_false, exists_false, or_false]
    exact ⟨fun ⟨_, cause, failure, _⟩ => ⟨cause, failure⟩,
      fun ⟨cause, failure⟩ => ⟨cause, cause, failure, trivial⟩⟩
  | fixed month day => simp [mapError_eq_error]

theorem isOverflow_of_resolveInYear {month day year : Nat} {error : DateError}
    (usable : (DateRule.fixed month day).IsUsable) (isYear : year ≤ 10000)
    (failure : resolveInYear rule month day year = .error error) : error.isOverflow = false := by
  rcases bind_eq_error.mp failure with failure | ⟨date, -, failure⟩
  · exact Date.isOverflow_of_ofRunningDay isYear usable.1 usable.2 failure
  · exact absurd failure pure_ne_error

/-- The days of usable rules do not overflow, in this year and in the next. -/
theorem isOverflow_of_resolve {error : DateError} (usable : ∀ rule ∈ rules, rule.IsUsable)
    (failure : resolver.resolve rules feed = .error (.date error)) : error.isOverflow = false := by
  obtain ⟨before, rule, after, events, rfl, -, failure⟩ :=
    resolveAll_eq_error.mp (resolve_eq_error.mp failure)
  have dateRule := (usable rule (by simp)).dateRule
  have isYear : resolver.today.year ≤ 9999 := resolver.today.valid.1.2
  unfold resolveRule at failure
  split at failure
  · obtain ⟨_, -, impossible⟩ := mapError_eq_error.mp failure
    cases impossible
  next month day fixed =>
    rw [fixed] at dateRule
    obtain ⟨cause, failure, same⟩ := mapError_eq_error.mp failure
    cases same
    rcases bind_eq_error.mp failure with failure | ⟨current, -, failure⟩
    · exact isOverflow_of_resolveInYear dateRule (by omega) failure
    · rcases bind_eq_error.mp failure with failure | ⟨next, -, failure⟩
      · exact isOverflow_of_resolveInYear dateRule (by omega) failure
      · exact absurd failure pure_ne_error

end Errors

end Observance.Resolver

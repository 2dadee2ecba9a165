import Mathlib.Data.List.Nodup
import Observance.Proofs.Calendar.DateOrder
import Observance.Proofs.Resolver.Reordering
import Observance.Proofs.Schedule.Publishable

/-! # The union of the rules

The rules of an accepted document are resolved to the events that each of them is resolved to alone,
and to no others. The events are in the order of their days, because texts of dates are, and no two
of them share their start and id: ids of rules differ, and the two days of a rule are in different
years. Such events are valid and already in the order that they are published in.
-/

namespace Observance

open Result

/-- The event has the texts of the rule. -/
structure Event.IsOf (event : Event Text) (rule : Rule) : Prop where
  id : event.id = rule.id
  name : event.name = rule.name
  importance : event.importance = rule.importance
  themeId : event.themeId = rule.themeId

/-- The event starts on an earlier day than the other one, or on the same day with a lesser id. -/
def Event.Precedes (event other : Event Text) : Prop :=
  ∃ start otherStart : Date, event.startDate = start.text ∧ other.startDate = otherStart.text ∧
    (start < otherStart ∨ start = otherStart ∧ event.id < other.id)

section Order

variable {events : List (Event Text)}

/-- Events that start on dates precede each other in the order of their starts and ids. -/
theorem Event.precedes_of_key_lt {event other : Event Text}
    (isDate : ∃ start : Date, event.startDate = start.text)
    (otherIsDate : ∃ start : Date, other.startDate = start.text) (less : event.key < other.key) :
    event.Precedes other := by
  obtain ⟨start, starts⟩ := isDate
  obtain ⟨otherStart, otherStarts⟩ := otherIsDate
  rw [key, key, Prod.Lex.toLex_lt_toLex] at less
  simp only [starts, otherStarts, Date.text_lt_iff] at less
  refine ⟨start, otherStart, starts, otherStarts, ?_⟩
  rcases less with earlier | ⟨same, ids⟩
  · exact .inl earlier
  · exact .inr ⟨Date.text_injective same, ids⟩

/-- Events that are in order stay as they are. -/
theorem Event.sortByStart_of_pairwise
    (sorted : events.Pairwise fun first second => first.key ≤ second.key) :
    sortByStart events = events :=
  List.mergeSort_of_pairwise (sorted.imp startsBefore_iff.mpr)

/-- Keys of events in order ascend strictly if they are different. -/
theorem Event.pairwise_key_lt
    (sorted : events.Pairwise fun first second => first.key ≤ second.key)
    (distinct : (events.map key).Nodup) :
    events.Pairwise fun first second => first.key < second.key := by
  have different : events.Pairwise fun first second => first.key ≠ second.key :=
    List.pairwise_map.mp distinct
  exact (sorted.and different).imp fun both => lt_of_le_of_ne both.1 both.2

/-- Of events with different keys, it does not matter whether some are selected first or all are put
in order first. -/
theorem Event.sortByStart_filter (isSelected : Event Text → Bool)
    (distinct : (events.map key).Nodup) :
    sortByStart (events.filter isSelected) = (sortByStart events).filter isSelected := by
  have sorted : sortByStart ((sortByStart events).filter isSelected) =
      (sortByStart events).filter isSelected :=
    sortByStart_of_pairwise ((pairwise_sortByStart events).filter isSelected)
  rw [← sorted]
  refine (sortByStart_eq_of_perm ?_ ((List.mergeSort_perm ..).filter isSelected)).symm
  intro first isFirst second isSecond starts ids
  exact List.inj_on_of_nodup_map distinct (List.mem_filter.mp isFirst).1
    (List.mem_filter.mp isSecond).1 (key_inj.mpr ⟨starts, ids⟩)

end Order

namespace Resolver

variable {resolver : Resolver} {feed : List FeedEvent} {rule : Rule} {rules : List Rule}
  {events : List (Event Text)}

section Keys

/-- The events of a usable rule have different keys, as two of them start in different years. -/
theorem nodup_keys_of_resolveRule (usable : rule.dateRule.IsUsable)
    (success : resolver.resolveRule feed rule = .ok events) : (events.map Event.key).Nodup := by
  cases resolveRule_eq_ok.mp success with
  | @calendar _ chosen => cases chosen <;> simp
  | @fixed _ _ current next isFixed thisYear nextYear =>
    rw [isFixed] at usable
    have isThisYear := Date.year_of_ofRunningDay usable.2 thisYear
    have isNextYear := Date.year_of_ofRunningDay usable.2 nextYear
    have different : current.text ≠ next.text := by
      intro same
      rw [Date.text_injective same] at isThisYear
      omega
    simp [Event.key, resolvedEvent, different]

/-- Events of usable rules with different ids have different keys. -/
theorem nodup_keys_of_resolveAll (distinct : (rules.map (·.id)).Nodup)
    (usable : ∀ rule ∈ rules, rule.IsUsable)
    (success : resolver.resolveAll feed rules = .ok events) : (events.map Event.key).Nodup := by
  induction rules generalizing events with
  | nil =>
    cases success
    simp
  | cons rule rules ih =>
    simp only [List.map_cons, List.nodup_cons] at distinct
    obtain ⟨new, distinct⟩ := distinct
    obtain ⟨isUsable, usable⟩ := List.forall_mem_cons.mp usable
    obtain ⟨own, resolved, success⟩ := bind_eq_ok.mp success
    obtain ⟨others, rest, success⟩ := bind_eq_ok.mp success
    cases pure_eq_ok.mp success
    rw [List.map_append, List.nodup_append]
    refine ⟨nodup_keys_of_resolveRule isUsable.dateRule resolved, ih distinct usable rest, ?_⟩
    -- The ids of the rule's own events are its id, which no event of the other rules has.
    simp only [List.mem_map]
    rintro _ ⟨event, isOwn, rfl⟩ _ ⟨other, isOther, rfl⟩ same
    refine new ?_
    rw [← id_of_mem_resolveRule resolved event isOwn, (Event.key_inj.mp same).2]
    exact id_of_mem_resolveAll rest other isOther

end Keys

section Union

theorem pairwise_of_resolve (resolved : resolver.resolve rules feed = .ok events) :
    events.Pairwise fun first second => first.key ≤ second.key := by
  obtain ⟨unordered, -, success⟩ := bind_eq_ok.mp resolved
  cases pure_eq_ok.mp success
  exact Event.pairwise_sortByStart unordered

theorem nodup_keys_of_resolve (distinct : (rules.map (·.id)).Nodup)
    (usable : ∀ rule ∈ rules, rule.IsUsable)
    (resolved : resolver.resolve rules feed = .ok events) : (events.map Event.key).Nodup := by
  obtain ⟨unordered, found, success⟩ := bind_eq_ok.mp resolved
  cases pure_eq_ok.mp success
  refine ((List.mergeSort_perm ..).map Event.key).nodup_iff.mpr ?_
  exact nodup_keys_of_resolveAll distinct usable found

/-- A rule alone is resolved to its entries among the events of all rules. -/
theorem resolve_singleton (distinct : (rules.map (·.id)).Nodup)
    (usable : ∀ rule ∈ rules, rule.IsUsable)
    (resolved : resolver.resolve rules feed = .ok events) (known : rule ∈ rules) :
    resolver.resolve [rule] feed = .ok (entriesOf rule events) := by
  obtain ⟨unordered, found, success⟩ := bind_eq_ok.mp resolved
  cases pure_eq_ok.mp success
  have keys := nodup_keys_of_resolveAll distinct usable found
  have alone : resolver.resolveAll feed [rule] = .ok (entriesOf rule unordered) := by
    simp only [resolveAll, entriesOf_resolveAll distinct found known, bind_eq_ok, pure_eq_ok,
      Except.ok.injEq, exists_eq_left', List.append_nil]
  rw [resolve, alone]
  exact congrArg _ (Event.sortByStart_filter _ keys)

/-- A rule with a pattern has one event or none. -/
theorem length_of_resolveRule {pattern : Pattern} (calendar : rule.dateRule = .calendar pattern)
    (success : resolver.resolveRule feed rule = .ok events) : events.length ≤ 1 := by
  cases resolveRule_eq_ok.mp success with
  | @calendar _ chosen => cases chosen <;> simp
  | fixed isFixed => cases calendar.symm.trans isFixed

/-- The events are those of all rules, in the order of their days and ids and each once. -/
structure IsSortedUnion (resolver : Resolver) (feed : List FeedEvent) (rules : List Rule)
    (events : List (Event Text)) : Prop where
  sorted : events.Pairwise Event.Precedes
  distinct : (events.map fun event => (event.startDate, event.id)).Nodup
  entries : ∀ rule ∈ rules, resolver.resolve [rule] feed = .ok (entriesOf rule events)
  calendar : ∀ rule ∈ rules, ∀ pattern, rule.dateRule = .calendar pattern →
    (entriesOf rule events).length ≤ 1
  fixed : ∀ rule ∈ rules, ∀ month day, rule.dateRule = .fixed month day →
    (entriesOf rule events).length = 2
  origin : ∀ event ∈ events, ∃ rule ∈ rules, event.IsOf rule ∧
    ∀ other ∈ rules, event.id = other.id → other = rule

/-- Usable rules with different ids are resolved to the union of their events. -/
theorem isSortedUnion_of_isUsable (distinct : (rules.map (·.id)).Nodup)
    (usable : ∀ rule ∈ rules, rule.IsUsable)
    (resolved : resolver.resolve rules feed = .ok events) :
    IsSortedUnion resolver feed rules events := by
  have keys := nodup_keys_of_resolve distinct usable resolved
  have ofRules := exists_of_mem_resolve resolved
  constructor
  case sorted =>
    have isDate : ∀ event ∈ events, ∃ start : Date, event.startDate = start.text := by
      intro event member
      obtain ⟨rule, -, start, stop, rfl⟩ := ofRules event member
      exact ⟨start, rfl⟩
    have ascending := Event.pairwise_key_lt (pairwise_of_resolve resolved) keys
    exact ascending.imp_of_mem fun isFirst isSecond less =>
      Event.precedes_of_key_lt (isDate _ isFirst) (isDate _ isSecond) less
  case distinct => exact keys
  case entries => exact fun rule known => resolve_singleton distinct usable resolved known
  case calendar =>
    intro rule known pattern calendar
    obtain ⟨own, success, same⟩ := exists_perm_entriesOf distinct resolved known
    rw [same.length_eq]
    exact length_of_resolveRule calendar success
  case fixed =>
    intro rule known month day fixed
    obtain ⟨current, next, -, -, same⟩ := exists_entriesOf_fixed distinct resolved known fixed
    exact same.length_eq
  case origin =>
    intro event member
    obtain ⟨rule, known, start, stop, rfl⟩ := ofRules event member
    refine ⟨rule, known, ⟨rfl, rfl, rfl, rfl⟩, fun other isOther ids => ?_⟩
    exact List.inj_on_of_nodup_map distinct isOther known ids.symm

end Union

/-- The rules of an accepted document are resolved to the union of their events. The events are
valid, and a schedule has them in the order that they are in. -/
theorem isSortedUnion_of_resolve {value : Json} {rules : RuleSet}
    (accepted : RuleSet.ofJson value = .ok rules)
    (resolved : resolver.resolve rules.rules feed = .ok events) :
    IsSortedUnion resolver feed rules.rules events ∧
      Schedule.validate events = .ok () ∧ Event.sortByStart events = events ∧
      ∀ moment schedule,
        Schedule.build rules.window rules.priorityOrder events moment = .ok schedule ↔
          ∃ generatedAt, moment.timestamp = .ok generatedAt ∧
            schedule = ⟨generatedAt, rules.window, rules.priorityOrder, events⟩ := by
  have usable := RuleSet.isUsable_of_ofJson accepted
  have distinct := RuleSet.nodup_ids_of_ofJson accepted
  have valid := Schedule.validate_of_isPublishable (isPublishable_of_resolve usable resolved)
  have unchanged := Event.sortByStart_of_pairwise (pairwise_of_resolve resolved)
  refine ⟨isSortedUnion_of_isUsable distinct usable.rules resolved, valid, unchanged, ?_⟩
  intro moment schedule
  rw [Schedule.build_eq_ok, unchanged]
  exact and_iff_right valid

section Carnival

open Schedule

/-- The leap day of this year, for both rules, and the day after February of the next year. -/
def leapUnion : List (Event Text) :=
  [resolvedEvent leapRule leapDay.today leapDay.today,
    resolvedEvent nextRule leapDay.today leapDay.today,
    resolvedEvent leapRule ⟨2025, 3, 1, by decide⟩ ⟨2025, 3, 1, by decide⟩]

/-- Of a rule for the next event and one for every leap day, the second has an event before and one
after that of the first, though it comes last in the document. -/
theorem isSortedUnion_of_resolve_leapDay :
    january.resolve leapRules.rules [leapEvent, auctionEvent] = .ok leapUnion ∧
      IsSortedUnion january [leapEvent, auctionEvent] leapRules.rules leapUnion ∧
      validate leapUnion = .ok () ∧ Event.sortByStart leapUnion = leapUnion := by
  have ordered : Event.sortByStart leapUnion = leapUnion :=
    List.mergeSort_of_pairwise (by decide +kernel)
  have resolved : january.resolve leapRules.rules [leapEvent, auctionEvent] = .ok leapUnion := by
    have found : january.resolveAll [leapEvent, auctionEvent] leapRules.rules =
        .ok [resolvedEvent nextRule leapDay.today leapDay.today,
          resolvedEvent leapRule leapDay.today leapDay.today,
          resolvedEvent leapRule ⟨2025, 3, 1, by decide⟩ ⟨2025, 3, 1, by decide⟩] :=
      toOption_eq_some.mp (by decide +kernel)
    rw [resolve, found, ← ordered]
    exact congrArg Except.ok (Event.sortByStart_eq_of_perm (by decide +kernel) (.swap ..))
  obtain ⟨union, valid, unchanged, -⟩ := isSortedUnion_of_resolve ofJson_leapFields resolved
  exact ⟨resolved, union, valid, unchanged⟩

end Carnival

end Resolver

end Observance

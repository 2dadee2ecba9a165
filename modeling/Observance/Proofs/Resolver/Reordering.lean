import Mathlib.Data.List.Flatten
import Mathlib.Data.Prod.Lex
import Observance.Proofs.Resolver.Choice
import Observance.Proofs.Rule.Reordering
import Observance.Schedule.Build

/-! # Resolving in another order

Events are published in the order of their starts and ids. No two events of one build share both:
ids of rules differ, a rule with a pattern gives at most one event, and the two of a rule with a
fixed day start on different days. So the published text does not depend on the order of the rules
in the document. The order of the feed matters only among the events that a rule may take first, and
not even there if they all end on the same day.
-/

namespace Observance

open Result

section Order

def Event.key (event : Event Text) : Text ×ₗ Text := toLex (event.startDate, event.id)

variable {first second : Event Text}

theorem Event.key_inj :
    first.key = second.key ↔ first.startDate = second.startDate ∧ first.id = second.id := by
  rw [key, key, toLex_inj, Prod.mk.injEq]

theorem Event.startsBefore_iff : first.startsBefore second = true ↔ first.key ≤ second.key := by
  simp only [startsBefore, key, Prod.Lex.toLex_le_toLex, Bool.or_eq_true, Bool.and_eq_true,
    decide_eq_true_eq, beq_iff_eq, Bool.not_eq_true', decide_eq_false_iff_not, not_lt]

/-- Events in order have ascending keys. -/
theorem Event.pairwise_sortByStart (events : List (Event Text)) :
    (sortByStart events).Pairwise fun first second => first.key ≤ second.key := by
  have sorted : (sortByStart events).Pairwise fun first second =>
      first.startsBefore second = true :=
    by
    refine List.pairwise_mergeSort ?_ ?_ events
    · intro first second third
      simp only [startsBefore_iff]
      exact le_trans
    · intro first second
      simp only [Bool.or_eq_true, startsBefore_iff]
      exact le_total ..
  exact sorted.imp startsBefore_iff.mp

/-- Events that differ in their starts or ids have only one order. -/
theorem Event.sortByStart_eq_of_perm {events others : List (Event Text)}
    (separate : ∀ first ∈ events, ∀ second ∈ events, first.startDate = second.startDate →
      first.id = second.id → first = second)
    (same : others.Perm events) : sortByStart others = sortByStart events := by
  have sameSorted : (sortByStart others).Perm (sortByStart events) :=
    (List.mergeSort_perm ..).trans (same.trans (List.mergeSort_perm ..).symm)
  refine sameSorted.eq_of_pairwise ?_ (pairwise_sortByStart others) (pairwise_sortByStart events)
  intro first second isOther isEvent notAfter notBefore
  obtain ⟨starts, ids⟩ := key_inj.mp (le_antisymm notAfter notBefore)
  rw [sortByStart, List.mem_mergeSort] at isOther isEvent
  exact separate first (same.mem_iff.mp isOther) second isEvent starts ids

end Order

namespace Resolver

variable {resolver : Resolver} {feed otherFeed : List FeedEvent} {rules others : List Rule}
  {events : List (Event Text)}

section Rules

/-- Rules are resolved one by one. -/
theorem resolveAll_eq_ok : resolver.resolveAll feed rules = .ok events ↔ ∃ parts,
    List.Forall₂ (fun rule own => resolver.resolveRule feed rule = .ok own) rules parts ∧
      parts.flatten = events := by
  induction rules generalizing events with
  | nil => simp [resolveAll, eq_comm]
  | cons rule rules ih =>
    simp only [resolveAll, bind_eq_ok, pure_eq_ok, ih, List.forall₂_cons_left_iff]
    constructor
    · rintro ⟨own, resolved, _, ⟨parts, rest, rfl⟩, rfl⟩
      exact ⟨own :: parts, ⟨own, parts, resolved, rest, rfl⟩, rfl⟩
    · rintro ⟨_, ⟨own, parts, resolved, rest, rfl⟩, rfl⟩
      exact ⟨own, resolved, parts.flatten, ⟨parts, rest, rfl⟩, rfl⟩

/-- Two events of one rule do not start on the same day. -/
theorem eq_of_mem_resolveRule {rule : Rule} {first second : Event Text}
    (success : resolver.resolveRule feed rule = .ok events) (isFirst : first ∈ events)
    (isSecond : second ∈ events) (starts : first.startDate = second.startDate) :
    first = second := by
  cases resolveRule_eq_ok.mp success with
  | calendar =>
    rw [Option.mem_toList] at isFirst isSecond
    exact Option.mem_unique isFirst isSecond
  | @fixed _ _ current next =>
    -- Both events last for one day, so they are known by the text of their start.
    have oneDay : ∀ event ∈ [resolvedEvent rule current current, resolvedEvent rule next next],
        ∃ day : Date, event = resolvedEvent rule day day :=
      List.forall_mem_cons.mpr ⟨⟨current, rfl⟩, List.forall_mem_singleton.mpr ⟨next, rfl⟩⟩
    obtain ⟨day, rfl⟩ := oneDay first isFirst
    obtain ⟨otherDay, rfl⟩ := oneDay second isSecond
    simp only [resolvedEvent] at starts ⊢
    rw [starts]

/-- The start and the id tell the events of rules with different ids apart. -/
theorem eq_of_mem_resolveAll (distinct : (rules.map (·.id)).Nodup)
    (success : resolver.resolveAll feed rules = .ok events) :
    ∀ first ∈ events, ∀ second ∈ events, first.startDate = second.startDate →
      first.id = second.id → first = second := by
  intro first isFirst second isSecond starts ids
  obtain ⟨rule, known, same⟩ := List.mem_map.mp (id_of_mem_resolveAll success first isFirst)
  have resolved := entriesOf_resolveAll distinct success known
  refine eq_of_mem_resolveRule resolved ?_ ?_ starts
  · exact List.mem_filter.mpr ⟨isFirst, beq_iff_eq.mpr same.symm⟩
  · exact List.mem_filter.mpr ⟨isSecond, beq_iff_eq.mpr (ids.symm.trans same.symm)⟩

/-- Rules with different ids are resolved to the same events in any order. -/
theorem resolve_reordered (distinct : (rules.map (·.id)).Nodup) (same : others.Perm rules)
    (resolved : resolver.resolve rules feed = .ok events) :
    resolver.resolve others feed = .ok events := by
  obtain ⟨unordered, found, success⟩ := bind_eq_ok.mp resolved
  cases pure_eq_ok.mp success
  obtain ⟨parts, own, rfl⟩ := resolveAll_eq_ok.mp found
  obtain ⟨otherParts, otherOwn, sameParts⟩ := List.perm_comp_forall₂ same own
  refine bind_eq_ok.mpr ⟨_, resolveAll_eq_ok.mpr ⟨otherParts, otherOwn, rfl⟩, ?_⟩
  rw [pure_eq_ok]
  exact Event.sortByStart_eq_of_perm (eq_of_mem_resolveAll distinct found) sameParts.flatten

end Rules

section Feeds

variable {fits : Text → Except Pattern.SearchFault Bool}

/-- Whether all candidates that start first end on the same day. -/
def EndsAgree (resolver : Resolver) (fits : Text → Except Pattern.SearchFault Bool)
    (feed : List FeedEvent) : Prop :=
  ∀ first ∈ feed, ∀ second ∈ feed, resolver.isCandidate fits first = true →
    resolver.isCandidate fits second = true → first.start = second.start →
    (∀ other ∈ feed, resolver.isCandidate fits other = true → first.start ≤ other.start) →
    first.stop.getD first.start = second.stop.getD second.start

/-- From a reordered feed an event on the same days is taken. -/
theorem exists_choose?_reordered {chosen : Option FeedEvent} (same : otherFeed.Perm feed)
    (agree : EndsAgree resolver fits feed) (success : resolver.choose? fits feed = .ok chosen) :
    ∃ other, resolver.choose? fits otherFeed = .ok other ∧
      other.map (fun event => (event.start, event.stop.getD event.start)) =
        chosen.map fun event => (event.start, event.stop.getD event.start) := by
  obtain ⟨searchable, soonest⟩ := choose?_eq_ok.mp success
  have otherSuccess : resolver.choose? fits otherFeed = .ok _ :=
    choose?_eq_ok.mpr ⟨fun event member => searchable event (same.mem_iff.mp member), rfl⟩
  refine ⟨_, otherSuccess, ?_⟩
  have sameCandidates := same.filter (resolver.isCandidate fits)
  cases chosen with
  | none =>
    rw [soonest?_eq_none.mp soonest] at sameCandidates
    rw [sameCandidates.eq_nil]
    rfl
  | some picked =>
    cases found : soonest? (otherFeed.filter (resolver.isCandidate fits)) with
    | none =>
      rw [soonest?_eq_none.mp found] at sameCandidates
      rw [← sameCandidates.nil_eq] at soonest
      cases soonest
    | some other =>
      rw [found] at otherSuccess
      have isOther := same.mem_iff.mp (mem_of_choose? otherSuccess)
      have isPicked := mem_of_choose? success
      have candidate := (choose?_eq_some.mp success).2.1
      have otherCandidate := (choose?_eq_some.mp otherSuccess).2.1
      have notLater := start_le_of_choose? success isOther otherCandidate
      have notSooner := start_le_of_choose? otherSuccess (same.mem_iff.mpr isPicked) candidate
      have starts : picked.start = other.start :=
        Date.number_injective (Nat.le_antisymm notLater notSooner)
      have ends := agree picked isPicked other isOther candidate otherCandidate starts
        fun event member => start_le_of_choose? success member
      rw [Option.map_some, Option.map_some, ends, starts]

/-- Rules are resolved to the same events against a reordered feed, if no rule has a choice of
events that end on different days. -/
theorem resolve_reordered_feed (same : otherFeed.Perm feed)
    (agree : ∀ rule ∈ rules, ∀ pattern, rule.dateRule = .calendar pattern →
      EndsAgree resolver pattern.search feed)
    (resolved : resolver.resolve rules feed = .ok events) :
    resolver.resolve rules otherFeed = .ok events := by
  obtain ⟨unordered, found, success⟩ := bind_eq_ok.mp resolved
  refine bind_eq_ok.mpr ⟨unordered, ?_, success⟩
  obtain ⟨parts, own, rfl⟩ := resolveAll_eq_ok.mp found
  refine resolveAll_eq_ok.mpr ⟨parts, ?_, rfl⟩
  refine List.forall₂_iff_get.mpr ⟨own.length_eq, fun place inRules inParts => ?_⟩
  have isOwn := own.get inRules inParts
  have known := List.get_mem rules ⟨place, inRules⟩
  generalize rules.get ⟨place, inRules⟩ = rule at isOwn known
  generalize parts.get ⟨place, inParts⟩ = part at isOwn
  cases resolveRule_eq_ok.mp isOwn with
  | calendar isCalendar success =>
    obtain ⟨other, otherSuccess, days⟩ :=
      exists_choose?_reordered same (agree rule known _ isCalendar) success
    have entryOf (event? : Option FeedEvent) :
        (event?.map fun event => resolvedEvent rule event.start (event.stop.getD event.start)) =
          (event?.map fun event => (event.start, event.stop.getD event.start)).map
            fun days => resolvedEvent rule days.1 days.2 := by
      rw [Option.map_map]
      rfl
    rw [entryOf, ← days, ← entryOf]
    exact resolveRule_eq_ok.mpr (.calendar isCalendar otherSuccess)
  | fixed isFixed thisYear nextYear =>
    exact resolveRule_eq_ok.mpr (.fixed isFixed thisYear nextYear)

end Feeds

end Resolver

namespace Schedule

/-- The text that is published for resolved events. -/
def textOf (rules : RuleSet) (events : List (Event Text)) (moment : Moment) :
    Except ScheduleError Text :=
  (build rules.window rules.priorityOrder events moment).map serialize

/-- An accepted document with its events in another order is accepted, and the same text is
published for it. It is also published if the feed is in another order, unless a rule has a choice
of events that start on the same day and end on different days. -/
theorem textOf_reordered {fields : Fields} {listed reordered : List Json} {rules : RuleSet}
    {resolver : Resolver} {feed : List FeedEvent} {events : List (Event Text)}
    (hasEvents : fields.get? "events" = some (.array listed)) (same : reordered.Perm listed)
    (accepted : RuleSet.ofJson (.object fields) = .ok rules)
    (resolved : resolver.resolve rules.rules feed = .ok events) :
    ∃ others, RuleSet.ofJson (.object (fields.put "events" (.array reordered))) = .ok others ∧
      ∀ otherFeed : List FeedEvent,
        (otherFeed = feed ∨ otherFeed.Perm feed ∧ ∀ rule ∈ rules.rules, ∀ pattern,
          rule.dateRule = .calendar pattern → resolver.EndsAgree pattern.search feed) →
        resolver.resolve others.rules otherFeed = .ok events ∧
          ∀ moment, textOf others events moment = textOf rules events moment := by
  obtain ⟨otherRules, isReordered, sameRules⟩ :=
    RuleSet.exists_ofJson_reordered hasEvents same accepted
  have distinct := RuleSet.nodup_ids_of_ofJson accepted
  refine ⟨_, isReordered, fun otherFeed reorderedFeed => ⟨?_, fun moment => rfl⟩⟩
  refine Resolver.resolve_reordered distinct sameRules ?_
  rcases reorderedFeed with rfl | ⟨sameFeed, agree⟩
  · exact resolved
  · exact Resolver.resolve_reordered_feed sameFeed agree resolved

section Carnival

open Resolver

/-- An event of a document that takes whatever is next in the feed. -/
def nextEntry : Json :=
  .object [
    ("id", .text "next"), ("name", .text "Next"), ("importance", .text "school"),
    ("themeId", .text "bells"),
    ("dateRule", .object [("type", .text "calendar"), ("calendarMatch", .text ".")])]

/-- An event of a document that is on every leap day, or on the day after February. -/
def leapEntry : Json :=
  .object [
    ("id", .text "leap"), ("name", .text "Leap day"), ("importance", .text "school"),
    ("themeId", .text "frogs"),
    ("dateRule", .object [("type", .text "fixed"), ("month", .integer 2), ("day", .integer 29)])]

def leapFields (entries : List Json) : Fields := [
  ("window", .object [("daysBefore", .integer 5), ("daysAfter", .integer 2)]),
  ("priorityOrder", .array [.text "school"]),
  ("events", .array entries)]

/-- The rule of the event that is on every leap day. -/
def leapRule : Rule :=
  { id := "leap", name := "Leap day", importance := "school", themeId := "frogs"
    dateRule := .fixed 2 29 }

def leapRules : RuleSet := ⟨⟨5, 2⟩, ["school"], [nextRule, leapRule]⟩

/-- An event that ends on the same day as the one on the leap day. -/
def auctionEvent : FeedEvent :=
  { summary := some "Auction", start := leapDay.today, stop := none }

theorem ofJson_leapFields :
    RuleSet.ofJson (.object (leapFields [nextEntry, leapEntry])) = .ok leapRules := by rfl

/-- Neither the order of two rules that give events on the leap day nor that of two events of the
feed on that day matters. -/
theorem textOf_reordered_leapDay : ∃ others events,
    RuleSet.ofJson (.object (leapFields [leapEntry, nextEntry])) = .ok others ∧
      january.resolve others.rules [auctionEvent, leapEvent] = .ok events ∧
      january.resolve leapRules.rules [leapEvent, auctionEvent] = .ok events ∧
      ∀ moment, textOf others events moment = textOf leapRules events moment := by
  obtain ⟨events, resolved⟩ : ∃ events,
      january.resolve leapRules.rules [leapEvent, auctionEvent] = .ok events :=
    exists_of_isSome_toOption (by decide +kernel)
  have agree : ∀ rule ∈ leapRules.rules, ∀ pattern, rule.dateRule = .calendar pattern →
      january.EndsAgree pattern.search [leapEvent, auctionEvent] := by
    intro rule known pattern calendar
    simp only [leapRules, List.mem_cons, List.not_mem_nil, or_false] at known
    rcases known with rfl | rfl
    · cases calendar
      unfold EndsAgree
      decide +kernel
    · cases calendar
  have hasEvents : (leapFields [nextEntry, leapEntry]).get? "events" =
      some (.array [nextEntry, leapEntry]) := rfl
  obtain ⟨others, accepted, texts⟩ :=
    textOf_reordered hasEvents (List.Perm.swap ..) ofJson_leapFields resolved
  obtain ⟨resolvedAgain, same⟩ := texts [auctionEvent, leapEvent]
    (.inr ⟨List.Perm.swap .., agree⟩)
  exact ⟨others, events, accepted, resolvedAgain, resolved, same⟩

end Carnival

end Schedule

end Observance

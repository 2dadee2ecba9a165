import Observance.Proofs.Resolver.Choice

/-! # The soonest event that fits

What a rule with a pattern is resolved to can be said with nothing but the feed, the reference day
and the lookahead. If no event fits and starts in time, it is nothing. Otherwise it has the days of
an event that fits and starts in time, and no other such event starts sooner, or on the same day
further up in the feed. That does not depend on how a pattern is searched for, but only on which
summaries fit.
-/

namespace Observance.Resolver

open Result

variable {resolver : Resolver} {feed : List FeedEvent} {event picked : FeedEvent}
  {today : Date} {lookahead : Int} {search : Text → Bool}

/-- Whether a rule may take an event: its summary fits, and it starts on the reference day, at the
end of the lookahead or in between. An event without a summary counts as one with an empty one. -/
structure IsEligible (search : Text → Bool) (today : Date) (lookahead : Int)
    (event : FeedEvent) : Prop where
  fits : search (event.summary.getD "") = true
  begun : today ≤ event.start
  within : ∃ limit, today.addMonths lookahead = .ok limit ∧ event.start ≤ limit

/-- Whether an event is the first of those in a feed that are eligible and start soonest. -/
inductive IsSoonest (isEligible : FeedEvent → Prop) (feed : List FeedEvent) : FeedEvent → Prop
  | intro {before after : List FeedEvent} {picked : FeedEvent}
    (split : feed = before ++ picked :: after) (eligible : isEligible picked)
    (noSooner : ∀ event ∈ feed, isEligible event → picked.start ≤ event.start)
    (first : ∀ event ∈ before, isEligible event → event.start ≠ picked.start) :
    IsSoonest isEligible feed picked

/-- The candidates of a resolver are the eligible events. -/
theorem isCandidate_iff_isEligible (made : make today lookahead = .ok resolver) :
    resolver.isCandidate (fun text => .ok (search text)) event = true ↔
      IsEligible search today lookahead event := by
  obtain ⟨added, rfl⟩ := make_eq_ok.mp made
  rw [isCandidate_iff, Except.ok.injEq]
  constructor
  · rintro ⟨fits, begun, within⟩
    exact ⟨fits, begun, resolver.windowEnd, added, within⟩
  · rintro ⟨fits, begun, limit, isLimit, within⟩
    cases isLimit.symm.trans added
    exact ⟨fits, begun, within⟩

/-- Only the answers for the summaries of a feed matter. -/
theorem choose?_congr {fits others : Text → Except Pattern.SearchFault Bool}
    (same : ∀ event ∈ feed, fits (event.summary.getD "") = others (event.summary.getD "")) :
    resolver.choose? fits feed = resolver.choose? others feed := by
  have found : fitting fits feed = fitting others feed := by
    induction feed with
    | nil => rfl
    | cons event feed ih =>
      obtain ⟨first, rest⟩ := List.forall_mem_cons.mp same
      rw [fitting, fitting, first, ih rest]
  rw [choose?, choose?, found]

/-- A rule takes an eligible event exactly if it is the first of the soonest ones. -/
theorem choose?_eq_some_iff_isSoonest (made : make today lookahead = .ok resolver) :
    resolver.choose? (fun text => .ok (search text)) feed = .ok (some picked) ↔
      IsSoonest (IsEligible search today lookahead) feed picked := by
  simp only [choose?_eq_some, isCandidate_iff_isEligible made]
  constructor
  · rintro ⟨-, eligible, before, after, rfl, sooner, notLater⟩
    refine ⟨rfl, eligible, fun event member isEligible => ?_,
      fun event member isEligible same => ?_⟩
    · rcases List.mem_append.mp member with member | member
      · exact Nat.le_of_lt (sooner event member isEligible)
      · rcases List.mem_cons.mp member with rfl | member
        · exact Nat.le_refl _
        · exact notLater event member isEligible
    · have earlier := sooner event member isEligible
      rw [same] at earlier
      exact Nat.lt_irrefl _ earlier
  · rintro ⟨rfl, eligible, noSooner, first⟩
    rename_i before after
    refine ⟨fun event _ => ⟨_, rfl⟩, eligible, before, after, rfl, ?_, ?_⟩
    · intro event member isEligible
      have notSooner := noSooner event (List.mem_append_left _ member) isEligible
      have later := first event member isEligible
      refine Nat.lt_of_le_of_ne notSooner fun same => later ?_
      exact Date.number_injective same.symm
    · intro event member isEligible
      exact noSooner event (List.mem_append_right _ (List.mem_cons_of_mem _ member)) isEligible

/-- A rule takes nothing exactly if no event is eligible. -/
theorem choose?_eq_none_iff (made : make today lookahead = .ok resolver) :
    resolver.choose? (fun text => .ok (search text)) feed = .ok none ↔
      ∀ event ∈ feed, ¬ IsEligible search today lookahead event := by
  have searchable : IsSearchable (fun text => .ok (search text)) feed := fun event _ => ⟨_, rfl⟩
  simp only [choose?_eq_ok, searchable, true_and, soonest?_eq_none, List.filter_eq_nil_iff,
    isCandidate_iff_isEligible made]

/-- A rule with a pattern is resolved to nothing exactly if no event is eligible, and otherwise to
the days of the first of the soonest eligible events. An event without an end ends on its start. -/
theorem resolveCalendar?_soonest (search : Text → Bool) (feed : List FeedEvent)
    (made : make today lookahead = .ok resolver) :
    ∃ chosen, resolver.choose? (fun text => .ok (search text)) feed = .ok chosen ∧
      (chosen = none ↔ ∀ event ∈ feed, ¬ IsEligible search today lookahead event) ∧
      (∀ picked, chosen = some picked →
        IsSoonest (IsEligible search today lookahead) feed picked) ∧
      ∀ (rule : Rule) (pattern : Pattern),
        (∀ event ∈ feed, pattern.search (event.summary.getD "") =
          .ok (search (event.summary.getD ""))) →
        resolver.resolveCalendar? rule pattern feed = .ok (chosen.map fun picked =>
          resolvedEvent rule picked.start (picked.stop.getD picked.start)) := by
  have searchable : IsSearchable (fun text => .ok (search text)) feed := fun event _ => ⟨_, rfl⟩
  obtain ⟨chosen, success⟩ : ∃ chosen,
      resolver.choose? (fun text => .ok (search text)) feed = .ok chosen :=
    ⟨_, choose?_eq_ok.mpr ⟨searchable, rfl⟩⟩
  refine ⟨chosen, success, ?_, ?_, fun rule pattern answers => ?_⟩
  · rw [← choose?_eq_none_iff made, success, Except.ok.injEq]
  · rintro picked rfl
    exact (choose?_eq_some_iff_isSoonest made).mp success
  · have same : resolver.choose? pattern.search feed =
        resolver.choose? (fun text => .ok (search text)) feed := choose?_congr answers
    rw [resolveCalendar?, same, success]
    rfl

section Carnival

/-- The feed of a leap year below an event without a summary. -/
def unnamedFeed : List FeedEvent :=
  { summary := none, start := january.today, stop := none } :: leapFeed

/-- Of two events on the last day of the lookahead the first is taken, and neither one that is over
nor one without a summary, though that is today. -/
theorem resolveCalendar?_soonest_leapDay :
    make january.today 1 = .ok january ∧
      IsSoonest (IsEligible (· != "") january.today 1) unnamedFeed leapEvent ∧
      january.resolveCalendar? nextRule anySummary unnamedFeed =
        .ok (some (resolvedEvent nextRule leapDay.today leapDay.today)) := by
  have made : make january.today 1 = .ok january := by rfl
  obtain ⟨chosen, success, -, soonest, resolved⟩ :=
    resolveCalendar?_soonest (· != "") unnamedFeed made
  have taken : january.choose? (fun text => .ok (text != "")) unnamedFeed =
      .ok (some leapEvent) := by decide +kernel
  cases success.symm.trans taken
  exact ⟨made, soonest leapEvent rfl, resolved nextRule anySummary (by decide +kernel)⟩

end Carnival

end Observance.Resolver

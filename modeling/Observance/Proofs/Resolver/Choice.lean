import Observance.Proofs.Calendar.Months
import Observance.Proofs.Resolver.Entries

/-! # The choice of an event

A rule with a pattern takes the soonest of the events that fit it and start within the lookahead,
and of several on the same day the first of the feed. That is said here without the filters and the
search of the definition: the feed is split at the event that is taken. With the reference day both
ends of the lookahead move on, neither of them back. So an event that is taken is taken again on
every later day up to its start, and no later choice starts sooner.
-/

namespace Observance.Resolver

open Calendar Result

variable {resolver : Resolver} {fits : Text → Except Pattern.SearchFault Bool}
  {feed found : List FeedEvent} {picked : FeedEvent}

section Soonest

/-- The soonest event starts before all events that precede it and no later than all that follow. -/
theorem soonest?_eq_some : soonest? feed = some picked ↔ ∃ before after,
    feed = before ++ picked :: after ∧ (∀ event ∈ before, picked.start < event.start) ∧
      ∀ event ∈ after, picked.start ≤ event.start := by
  constructor
  · intro soonest
    induction feed generalizing picked with
    | nil => cases soonest
    | cons first feed ih =>
      rw [soonest?] at soonest
      cases later : soonest? feed with
      | none =>
        rw [later] at soonest
        cases soonest
        have empty : feed = [] := by
          cases feed with
          | nil => rfl
          | cons second feed =>
            rw [soonest?] at later
            split at later
            · split at later <;> cases later
            · cases later
        exact ⟨[], feed, rfl, by simp, by simp [empty]⟩
      | some other =>
        obtain ⟨before, after, rfl, sooner, notLater⟩ := ih later
        simp only [later] at soonest
        split at soonest
        next overtaken =>
          cases soonest
          exact ⟨first :: before, after, rfl,
            List.forall_mem_cons.mpr ⟨overtaken, sooner⟩, notLater⟩
        next kept =>
          cases soonest
          have leading : first.start ≤ other.start := Nat.le_of_not_lt kept
          refine ⟨[], _, rfl, by simp, fun event member => Nat.le_trans leading ?_⟩
          rcases List.mem_append.mp member with member | member
          · exact Nat.le_of_lt (sooner event member)
          · rcases List.mem_cons.mp member with rfl | member
            · exact Nat.le_refl _
            · exact notLater event member
  · rintro ⟨before, after, rfl, sooner, notLater⟩
    induction before with
    | nil =>
      rw [List.nil_append, soonest?]
      split
      next other found =>
        have leading : picked.start ≤ other.start := notLater other (mem_of_soonest? found)
        exact if_neg (Nat.not_lt.mpr leading)
      · rfl
    | cons first before ih =>
      obtain ⟨overtaken, sooner⟩ := List.forall_mem_cons.mp sooner
      rw [List.cons_append, soonest?, ih sooner]
      exact if_pos overtaken

/-- There is no soonest event only if there is no event. -/
theorem soonest?_eq_none : soonest? feed = none ↔ feed = [] := by
  cases feed with
  | nil => simp [soonest?]
  | cons first feed =>
    rw [soonest?]
    split
    · split <;> simp
    · simp

end Soonest

section Candidates

def isFitting (fits : Text → Except Pattern.SearchFault Bool) (event : FeedEvent) : Bool :=
  (fits (event.summary.getD "")).toOption == some true

/-- Whether every summary of a feed can be searched. -/
def IsSearchable (fits : Text → Except Pattern.SearchFault Bool) (feed : List FeedEvent) : Prop :=
  ∀ event ∈ feed, ∃ answer, fits (event.summary.getD "") = .ok answer

/-- Whether an event can be taken: its summary fits, and it starts within the lookahead. -/
def isCandidate (resolver : Resolver) (fits : Text → Except Pattern.SearchFault Bool)
    (event : FeedEvent) : Bool :=
  isFitting fits event && resolver.isWithin event

theorem isFitting_iff {event : FeedEvent} :
    isFitting fits event = true ↔ fits (event.summary.getD "") = .ok true := by
  rw [isFitting, beq_iff_eq, toOption_eq_some]

theorem isCandidate_iff {event : FeedEvent} :
    resolver.isCandidate fits event = true ↔ fits (event.summary.getD "") = .ok true ∧
      resolver.today ≤ event.start ∧ event.start ≤ resolver.windowEnd := by
  rw [isCandidate, Bool.and_eq_true, isFitting_iff, isWithin, decide_eq_true_eq]

/-- The fitting events of a feed are found exactly if every summary can be searched. -/
theorem fitting_eq_ok :
    fitting fits feed = .ok found ↔
      IsSearchable fits feed ∧ found = feed.filter (isFitting fits) := by
  induction feed generalizing found with
  | nil => simp [fitting, IsSearchable, eq_comm]
  | cons event feed ih =>
    simp only [fitting, bind_eq_ok, pure_eq_ok, ih, IsSearchable, List.forall_mem_cons,
      List.filter_cons]
    constructor
    · rintro ⟨answer, answered, others, ⟨searchable, rfl⟩, rfl⟩
      refine ⟨⟨⟨answer, answered⟩, searchable⟩, ?_⟩
      simp [isFitting, answered, Except.toOption]
    · rintro ⟨⟨⟨answer, answered⟩, searchable⟩, rfl⟩
      refine ⟨answer, answered, _, ⟨searchable, rfl⟩, ?_⟩
      simp [isFitting, answered, Except.toOption]

/-- What a rule takes is the soonest candidate. -/
theorem choose?_eq_ok {chosen : Option FeedEvent} :
    resolver.choose? fits feed = .ok chosen ↔
      IsSearchable fits feed ∧ soonest? (feed.filter (resolver.isCandidate fits)) = chosen := by
  have both : resolver.isCandidate fits =
      fun event => resolver.isWithin event && isFitting fits event :=
    funext fun event => Bool.and_comm ..
  simp only [choose?, bind_eq_ok, pure_eq_ok, fitting_eq_ok, both, ← List.filter_filter]
  constructor
  · rintro ⟨_, ⟨searchable, rfl⟩, soonest⟩
    exact ⟨searchable, soonest⟩
  · rintro ⟨searchable, soonest⟩
    exact ⟨_, ⟨searchable, rfl⟩, soonest⟩

/-- A rule takes the event at which the feed splits into candidates that start later and candidates
that do not start sooner. -/
theorem choose?_eq_some :
    resolver.choose? fits feed = .ok (some picked) ↔ IsSearchable fits feed ∧
      resolver.isCandidate fits picked = true ∧ ∃ before after, feed = before ++ picked :: after ∧
        (∀ event ∈ before, resolver.isCandidate fits event = true → picked.start < event.start) ∧
        ∀ event ∈ after, resolver.isCandidate fits event = true → picked.start ≤ event.start := by
  rw [choose?_eq_ok, soonest?_eq_some]
  refine and_congr_right fun _ => ?_
  constructor
  · rintro ⟨candidates, others, split, sooner, notLater⟩
    obtain ⟨front, back, rfl, rfl, remaining⟩ := List.filter_eq_append_iff.mp split
    obtain ⟨skipped, after, rfl, rejected, accepted, rfl⟩ := List.filter_eq_cons_iff.mp remaining
    refine ⟨accepted, front ++ skipped, after, by simp, ?_, ?_⟩
    · intro event member candidate
      rcases List.mem_append.mp member with member | member
      · exact sooner event (List.mem_filter.mpr ⟨member, candidate⟩)
      · exact absurd candidate (rejected event member)
    · intro event member candidate
      exact notLater event (List.mem_filter.mpr ⟨member, candidate⟩)
  · rintro ⟨accepted, before, after, rfl, sooner, notLater⟩
    refine ⟨before.filter (resolver.isCandidate fits), after.filter (resolver.isCandidate fits),
      by simp [accepted], ?_, ?_⟩
    · intro event member
      obtain ⟨member, candidate⟩ := List.mem_filter.mp member
      exact sooner event member candidate
    · intro event member
      obtain ⟨member, candidate⟩ := List.mem_filter.mp member
      exact notLater event member candidate

/-- No candidate starts sooner than the event that a rule takes. -/
theorem start_le_of_choose? {event : FeedEvent}
    (chosen : resolver.choose? fits feed = .ok (some picked)) (known : event ∈ feed)
    (candidate : resolver.isCandidate fits event = true) : picked.start ≤ event.start := by
  obtain ⟨-, -, before, after, rfl, sooner, notLater⟩ := choose?_eq_some.mp chosen
  rcases List.mem_append.mp known with known | known
  · exact Nat.le_of_lt (sooner event known candidate)
  · rcases List.mem_cons.mp known with rfl | known
    · exact Nat.le_refl _
    · exact notLater event known candidate

end Candidates

section Later

variable {today later : Date} {lookahead : Int} {next : Resolver}

theorem make_eq_ok : make today lookahead = .ok resolver ↔
    today.addMonths lookahead = .ok resolver.windowEnd ∧ today = resolver.today := by
  simp only [make, bind_eq_ok, pure_eq_ok]
  constructor
  · rintro ⟨windowEnd, added, rfl⟩
    exact ⟨added, rfl⟩
  · rintro ⟨added, rfl⟩
    exact ⟨_, added, rfl⟩

/-- Both ends of the lookahead move on with the reference day. -/
theorem windowEnd_mono (notEarlier : today ≤ later) (made : make today lookahead = .ok resolver)
    (remade : make later lookahead = .ok next) : resolver.windowEnd ≤ next.windowEnd := by
  obtain ⟨added, -⟩ := make_eq_ok.mp made
  obtain ⟨addedLater, -⟩ := make_eq_ok.mp remade
  exact Date.addMonths_mono notEarlier added addedLater

/-- Until the event that a rule takes has started, the rule takes it again on every later day, and
what the rule takes on a later day starts no sooner. -/
theorem choose?_later (rule : Rule) {pattern : Pattern} (notEarlier : today ≤ later)
    (made : make today lookahead = .ok resolver) (remade : make later lookahead = .ok next)
    (chosen : resolver.choose? pattern.search feed = .ok (some picked)) :
    (later ≤ picked.start → next.choose? pattern.search feed = .ok (some picked) ∧
      next.resolveCalendar? rule pattern feed = .ok
        (some (resolvedEvent rule picked.start (picked.stop.getD picked.start))) ∧
      next.resolveCalendar? rule pattern feed = resolver.resolveCalendar? rule pattern feed) ∧
    ∀ other, next.choose? pattern.search feed = .ok (some other) → picked.start ≤ other.start := by
  have ends := windowEnd_mono notEarlier made remade
  obtain ⟨-, rfl⟩ := make_eq_ok.mp made
  obtain ⟨-, rfl⟩ := make_eq_ok.mp remade
  obtain ⟨searchable, candidate, before, after, split, sooner, notLater⟩ :=
    choose?_eq_some.mp chosen
  obtain ⟨isFitting, begun, within⟩ := isCandidate_iff.mp candidate
  -- Up to the start of the event, what is a candidate on the later day was one on the earlier day.
  have wasCandidate (event : FeedEvent) (fitsLater : next.isCandidate pattern.search event = true)
      (notAfter : event.start ≤ picked.start) :
      resolver.isCandidate pattern.search event = true := by
    obtain ⟨isFitting, begun, -⟩ := isCandidate_iff.mp fitsLater
    exact isCandidate_iff.mpr
      ⟨isFitting, Nat.le_trans notEarlier begun, Nat.le_trans notAfter within⟩
  refine ⟨fun notStarted => ?_, fun other chosenLater => ?_⟩
  · have chosenLater : next.choose? pattern.search feed = .ok (some picked) := by
      refine choose?_eq_some.mpr ⟨searchable, isCandidate_iff.mpr
        ⟨isFitting, notStarted, Nat.le_trans within ends⟩, before, after, split, ?_, ?_⟩
      · intro event member fitsLater
        refine Nat.lt_of_not_le fun notAfter => ?_
        have := sooner event member (wasCandidate event fitsLater notAfter)
        exact Nat.not_le_of_lt this notAfter
      · intro event member fitsLater
        refine Nat.le_of_not_lt fun before => ?_
        have := notLater event member (wasCandidate event fitsLater (Nat.le_of_lt before))
        exact Nat.not_le_of_lt before this
    refine ⟨chosenLater, ?_, ?_⟩
    · rw [resolveCalendar?, chosenLater]
      rfl
    · rw [resolveCalendar?, resolveCalendar?, chosenLater, chosen]
  · obtain ⟨-, otherCandidate, -⟩ := choose?_eq_some.mp chosenLater
    refine Nat.le_of_not_lt fun before => ?_
    have earlier := start_le_of_choose? chosen (mem_of_choose? chosenLater)
      (wasCandidate other otherCandidate (Nat.le_of_lt before))
    exact Nat.not_le_of_lt before earlier

section LeapDay

/-- A pattern that fits every summary with a visible character. -/
def anySummary : Pattern := ⟨".", .seq (.char .notLineFeed) .empty, 1⟩

def nextRule : Rule :=
  { id := "next", name := "Next", importance := "school", themeId := "bells"
    dateRule := .calendar anySummary }

/-- The last day of January, a month ahead of which is the leap day. -/
def january : Resolver := ⟨⟨2024, 1, 31, by decide⟩, ⟨2024, 2, 29, by decide⟩⟩

def leapDay : Resolver := ⟨⟨2024, 2, 29, by decide⟩, ⟨2024, 3, 29, by decide⟩⟩

def leapEvent : FeedEvent :=
  { summary := some "Leap day", start := leapDay.today, stop := some leapDay.today }

/-- A feed with an event that is over on the leap day, and with two on that day. -/
def leapFeed : List FeedEvent :=
  [{ summary := some "New Year", start := ⟨2024, 1, 1, by decide⟩, stop := none }, leapEvent,
    { summary := some "Carnival", start := leapDay.today, stop := some ⟨2024, 3, 3, by decide⟩ }]

theorem choose?_later_leapDay :
    leapDay.choose? anySummary.search leapFeed = .ok (some leapEvent) ∧
      leapDay.resolveCalendar? nextRule anySummary leapFeed =
        january.resolveCalendar? nextRule anySummary leapFeed := by
  have made : make january.today 1 = .ok january := by rfl
  have remade : make leapDay.today 1 = .ok leapDay := by rfl
  have chosen : january.choose? anySummary.search leapFeed = .ok (some leapEvent) := by
    decide +kernel
  obtain ⟨kept, -, same⟩ := (choose?_later nextRule (by decide) made remade chosen).1
    (Nat.le_refl _)
  exact ⟨kept, same⟩

end LeapDay

end Later

end Observance.Resolver

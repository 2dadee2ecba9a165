import Mathlib.Data.List.MinMax
import Mathlib.Data.Prod.Lex
import Observance.Proofs.Theme.Activity
import Observance.Theme.Selection

/-! # The winner as a least candidate

The winner of a day is the first of the candidates whose key is least: the place of the importance,
then the distance of the start, then the id. For a publishable schedule all of this can be had
without failing, so there always is a selection. It does not depend on the order of the events if
only one candidate has the least key. Two candidates of one id may share it, for they may start as
long before a day as after it, and then the first of them wins.
-/

namespace Observance

open Calendar Result

namespace Theme

def levelOf (event : Event Text) : Level :=
  if event.themeId ≠ noTheme ∧ event.importance ∈ fullImportances then .full else .subtle

def shown (winner : Option (Candidate Text)) : Selection Text :=
  match winner with
  | some winner => ⟨winner.event.themeId, levelOf winner.event, some winner.event⟩
  | none => .nothing

def candidateOf? (window : Window Int) (today : Date) (event : Event Text) :
    Option (Candidate Text) := do
  let start ← Date.ofText? event.startDate
  let stop ← Date.ofText? event.endDate
  if Covers window start stop today then some ⟨event, start⟩ else none

def candidatesOf (schedule : CheckedSchedule) (today : Date) : List (Candidate Text) :=
  schedule.events.filterMap (candidateOf? schedule.window today)

/-- What decides between candidates: the place of the importance, the distance of the start, and
the id. -/
def key (priorityOrder : List Text) (today : Date) (candidate : Candidate Text) :
    ℕ ×ₗ ℕ ×ₗ Text :=
  toLex (priorityOrder.idxOf candidate.event.importance,
    toLex ((today.daysUntil candidate.start).natAbs, candidate.event.id))

def winnerOf? (schedule : CheckedSchedule) (today : Date) : Option (Candidate Text) :=
  (candidatesOf schedule today).argmin (key schedule.priorityOrder today)

section Ranks

@[simp]
theorem equal_text (first second : Text) :
    (Json.text first).equal (.text second) = (first == second) := by
  simp [Json.equal]

theorem isNone_eq (themeId : Text) : isNone themeId = (themeId == noTheme) := by
  simp [isNone, Publishable.toJson]

theorem levelFor_eq (event : Event Text) : levelFor event = .ok (levelOf event) := by
  simp only [levelFor, levelOf, isNone_eq, Publishable.toJson, Json.asKey]
  by_cases none : event.themeId = noTheme
  · simp [none]
    rfl
  · simp [none, List.any_eq_true, bind, Except.bind, pure, Except.pure]

/-- The rank of a candidate. -/
def rankOf (priorityOrder : List Text) (today : Date) (candidate : Candidate Text) : Rank :=
  ⟨priorityOrder.idxOf candidate.event.importance, (today.daysUntil candidate.start).natAbs,
    .text candidate.event.id⟩

theorem rank_eq (priorityOrder : List Text) (today : Date) (candidate : Candidate Text) :
    rank (priorityOrder.map .text) today candidate =
      .ok (rankOf priorityOrder today candidate) := by
  simp [rank, rankOf, Publishable.toJson, Json.asKey, List.findIdx_map, List.idxOf, bind,
    Except.bind, pure, Except.pure, Function.comp_def]

/-- The rank with the lesser key beats the other. -/
theorem beats_rankOf (priorityOrder : List Text) (today : Date) (a b : Candidate Text) :
    (rankOf priorityOrder today a).beats (rankOf priorityOrder today b) =
      .ok (decide (key priorityOrder today a < key priorityOrder today b)) := by
  simp only [Rank.beats, rankOf, key, equal_text, Json.less?, Prod.Lex.toLex_lt_toLex, mapError_ok]
  by_cases places : priorityOrder.idxOf a.event.importance = priorityOrder.idxOf b.event.importance
  · by_cases distances : (today.daysUntil a.start).natAbs = (today.daysUntil b.start).natAbs
    · by_cases ids : a.event.id = b.event.id
      · simp [places, distances, ids]
      · simp only [places, distances, ids, ne_eq, not_true_eq_false, if_false, beq_iff_eq,
          lt_irrefl, false_or, true_and]
    · simp only [places, distances, ne_eq, not_true_eq_false, not_false_eq_true, if_false, if_true,
        lt_irrefl, false_or, true_and, false_and, or_false]
      rfl
  · simp only [places, ne_eq, not_false_eq_true, if_true, false_and, or_false]
    rfl

end Ranks

section Selections

/-- The least of several elements, the first of them first compared with the second. -/
theorem argmin_cons_cons {α β : Type} [LinearOrder β] (f : α → β) (first second : α)
    (others : List α) :
    (first :: second :: others).argmin f =
      if f second < f first then (second :: others).argmin f else (first :: others).argmin f := by
  simp only [List.argmin, List.foldl_cons, List.argAux]
  split <;> rfl

/-- Going through the candidates finds the first one with the least key. -/
theorem exists_bestOf (priorityOrder : List Text) (today : Date) (best : Candidate Text)
    (candidates : List (Candidate Text)) :
    ∃ winner, bestOf (rank (priorityOrder.map .text) today) best (rankOf priorityOrder today best)
        candidates = .ok winner ∧
      (best :: candidates).argmin (key priorityOrder today) = some winner := by
  induction candidates generalizing best with
  | nil => exact ⟨best, rfl, rfl⟩
  | cons candidate candidates ih =>
    rw [argmin_cons_cons]
    simp only [bestOf, rank_eq, beats_rankOf, bind, Except.bind, decide_eq_true_eq]
    split
    · exact ih candidate
    · exact ih best

theorem candidate?_eq {window : Window Int} {today : Date} {event : Event Text}
    (publishable : event.IsPublishable) :
    candidate? window today event = .ok (candidateOf? window today event) := by
  obtain ⟨start, startDate⟩ := publishable.startDate
  obtain ⟨stop, endDate⟩ := publishable.endDate
  simp only [candidate?, candidateOf?, readDays_eq startDate endDate, activeRange_eq, startDate,
    endDate, Date.ofText?, Date.ofText_text]
  exact congrArg Except.ok (if_congr (isWithin_activeRange? today) rfl rfl)

theorem candidates_eq {window : Window Int} {today : Date} {events : List (Event Text)}
    (publishable : ∀ event ∈ events, event.IsPublishable) :
    candidates window today events = .ok (events.filterMap (candidateOf? window today)) := by
  induction events with
  | nil => rfl
  | cons event events ih =>
    obtain ⟨first, others⟩ := List.forall_mem_cons.mp publishable
    rw [candidates, candidate?_eq first, ih others, List.filterMap_cons]
    cases candidateOf? window today event <;> rfl

theorem mapM_asKey (priorityOrder : List Text) :
    (priorityOrder.mapM fun importance => (Publishable.toJson importance).asKey) =
      .ok (priorityOrder.map .text) := by
  induction priorityOrder with
  | nil => rfl
  | cons importance priorityOrder ih =>
    rw [List.mapM_cons, ih]
    rfl

/-- For a publishable schedule the first candidate with the least key is shown. -/
theorem winnerOf_eq {schedule : CheckedSchedule} (publishable : schedule.IsPublishable)
    (today : Date) : winnerOf schedule today = .ok (shown (winnerOf? schedule today)) := by
  rw [winnerOf, candidates_eq publishable.events, winnerOf?, candidatesOf]
  cases schedule.events.filterMap (candidateOf? schedule.window today) with
  | nil => rfl
  | cons first others =>
    obtain ⟨winner, best, least⟩ := exists_bestOf schedule.priorityOrder today first others
    simp only [bind, Except.bind, mapM_asKey, rank_eq, best, least, Selection.ofEvent, levelFor_eq]
    rfl

end Selections

section Order

deriving instance DecidableEq for Candidate

/-- Whether a candidate of a day has the least key of all. -/
def IsBest (schedule : CheckedSchedule) (today : Date) (candidate : Candidate Text) : Prop :=
  candidate ∈ candidatesOf schedule today ∧ ∀ other ∈ candidatesOf schedule today,
    key schedule.priorityOrder today candidate ≤ key schedule.priorityOrder today other

def reordered (schedule : CheckedSchedule) (events : List (Event Text)) : CheckedSchedule :=
  { schedule with events }

variable {schedule : CheckedSchedule} {today : Date}

theorem isBest_of_winnerOf? {winner : Candidate Text}
    (found : winnerOf? schedule today = some winner) : IsBest schedule today winner :=
  ⟨List.argmin_mem found, fun _ member => List.le_of_mem_argmin member found⟩

theorem candidatesOf_perm (today : Date) {events : List (Event Text)}
    (same : events.Perm schedule.events) :
    (candidatesOf (reordered schedule events) today).Perm (candidatesOf schedule today) :=
  same.filterMap _

theorem isBest_reordered {events : List (Event Text)} (same : events.Perm schedule.events)
    {candidate : Candidate Text} :
    IsBest (reordered schedule events) today candidate ↔ IsBest schedule today candidate := by
  have candidates := candidatesOf_perm today same
  simp only [IsBest, candidates.mem_iff]
  rfl

/-- A candidate is the one that its event is. -/
theorem candidateOf?_event {candidate : Candidate Text}
    (member : candidate ∈ candidatesOf schedule today) :
    candidateOf? schedule.window today candidate.event = some candidate := by
  obtain ⟨event, -, found⟩ := List.mem_filterMap.mp member
  have isEvent : candidate.event = event := by
    simp only [candidateOf?, Option.bind_eq_bind, Option.bind_eq_some_iff] at found
    obtain ⟨start, -, stop, -, found⟩ := found
    split at found
    · cases found
      rfl
    · cases found
  rw [isEvent, found]

/-- Each of the best candidates wins in some order of the events. -/
theorem exists_order_of_isBest {candidate : Candidate Text}
    (best : IsBest schedule today candidate) :
    ∃ events, events.Perm schedule.events ∧
      winnerOf? (reordered schedule events) today = some candidate := by
  obtain ⟨event, member, found⟩ := List.mem_filterMap.mp best.1
  have same := (List.perm_cons_erase member).symm
  obtain ⟨isCandidate, least⟩ := (isBest_reordered same).mpr best
  refine ⟨event :: schedule.events.erase event, same, ?_⟩
  -- In front of the others the candidate wins, for none of them has a lesser key.
  have inFront : candidatesOf (reordered schedule (event :: schedule.events.erase event)) today =
      candidate :: candidatesOf (reordered schedule (schedule.events.erase event)) today :=
    List.filterMap_cons_some found
  rw [winnerOf?, List.argmin_eq_some_iff]
  refine ⟨isCandidate, least, fun other _ _ => ?_⟩
  rw [inFront, List.idxOf_cons_self]
  exact Nat.zero_le _

/-- If no two candidates are best, the same one wins in every order of the events. -/
theorem winnerOf?_reordered {events : List (Event Text)} (same : events.Perm schedule.events)
    (unique : ∀ first second, IsBest schedule today first → IsBest schedule today second →
      first = second) :
    winnerOf? (reordered schedule events) today = winnerOf? schedule today := by
  have candidates := candidatesOf_perm today same
  cases wins : winnerOf? (reordered schedule events) today with
  | none =>
    rw [winnerOf?, List.argmin_eq_none] at wins
    rw [wins] at candidates
    rw [eq_comm, winnerOf?, List.argmin_eq_none]
    exact List.nil_perm.mp candidates
  | some winner =>
    have best := (isBest_reordered same).mp (isBest_of_winnerOf? wins)
    cases other : winnerOf? schedule today with
    | none =>
      rw [winnerOf?, List.argmin_eq_none] at other
      exact absurd (other ▸ best.1) List.not_mem_nil
    | some original => rw [unique winner original best (isBest_of_winnerOf? other)]

/-- The selection of a day does not depend on the order of the events exactly if no two candidates
have the least key. -/
theorem selectWinner_reordered_iff {document : Json}
    (read : Schedule.ofJson? document = some schedule) (today : Date) :
    (∀ events : List (Event Text), events.Perm schedule.events →
      selectWinner (some (reordered schedule events)) today = selectWinner (some schedule) today) ↔
    ∀ first second, IsBest schedule today first → IsBest schedule today second →
      first = second := by
  have publishable := (Schedule.isPublishable_of_ofJson? read).1
  have selected (events : List (Event Text)) (same : events.Perm schedule.events) :
      selectWinner (some (reordered schedule events)) today =
        .ok (shown (winnerOf? (reordered schedule events) today)) := by
    have remains : (reordered schedule events).IsPublishable :=
      ⟨publishable.window, fun event member => publishable.events event (same.mem_iff.mp member)⟩
    exact winnerOf_eq remains today
  constructor
  · intro independent first second isFirst isSecond
    obtain ⟨events, same, wins⟩ := exists_order_of_isBest isFirst
    obtain ⟨others, sameToo, winsToo⟩ := exists_order_of_isBest isSecond
    have selections := (independent events same).trans (independent others sameToo).symm
    rw [selected events same, selected others sameToo, wins, winsToo, Except.ok.injEq] at selections
    have sameEvent : first.event = second.event :=
      Option.some.inj (congrArg (·.event) selections)
    have isCandidate := candidateOf?_event isFirst.1
    rw [sameEvent, candidateOf?_event isSecond.1] at isCandidate
    exact (Option.some.inj isCandidate).symm
  · intro unique events same
    rw [selected events same, winnerOf?_reordered same unique]
    exact (winnerOf_eq publishable today).symm

/-- A document with two events of one id, a day before and a day after Christmas. -/
def twiceDocument : Json :=
  let entry (startDate : Text) : Json :=
    .object [("id", .text "carols"), ("name", .text "Carols"), ("importance", .text "school"),
      ("themeId", .text "bells"), ("startDate", .text startDate), ("endDate", .text startDate)]
  .object [
    ("generatedAt", .text "2024-12-01T08:00:00.000Z"),
    ("window", .object [("daysBefore", .integer 5), ("daysAfter", .integer 2)]),
    ("priorityOrder", .array [.text "school"]),
    ("resolvedEvents", .array [entry "2024-12-24", entry "2024-12-26"])]

def carols (startDate : Text) : Event Text :=
  ⟨"carols", "Carols", "school", "bells", startDate, startDate⟩

def twice : CheckedSchedule :=
  ⟨"2024-12-01T08:00:00.000Z", ⟨5, 2⟩, ["school"], [carols "2024-12-24", carols "2024-12-26"]⟩

theorem ofJson?_twiceDocument : Schedule.ofJson? twiceDocument = some twice := by decide +kernel

/-- Two days before Christmas, the first of them wins in either order. -/
theorem selectWinner_reordered_iff_twice :
    selectWinner (some (reordered twice twice.events.reverse)) ⟨2024, 12, 23, by decide⟩ =
      selectWinner (some twice) ⟨2024, 12, 23, by decide⟩ := by
  have candidates : candidatesOf twice ⟨2024, 12, 23, by decide⟩ =
      [⟨carols "2024-12-24", ⟨2024, 12, 24, by decide⟩⟩,
        ⟨carols "2024-12-26", ⟨2024, 12, 26, by decide⟩⟩] := by decide +kernel
  have isFirst (candidate : Candidate Text)
      (best : IsBest twice ⟨2024, 12, 23, by decide⟩ candidate) :
      candidate = ⟨carols "2024-12-24", ⟨2024, 12, 24, by decide⟩⟩ := by
    obtain ⟨member, least⟩ := best
    rw [candidates] at member least
    rcases List.mem_cons.mp member with rfl | member
    · rfl
    · obtain rfl := List.mem_singleton.mp member
      exact absurd (least _ (List.mem_cons_self ..)) (by decide +kernel)
  refine (selectWinner_reordered_iff ofJson?_twiceDocument _).mpr ?_ _ (List.reverse_perm _)
  intro first second best bestToo
  rw [isFirst first best, isFirst second bestToo]

/-- Not every schedule has a selection that does not depend on the order of the events. -/
theorem exists_order_dependent : ¬ ∀ (document : Json) (schedule : CheckedSchedule) (today : Date)
    (events : List (Event Text)), Schedule.ofJson? document = some schedule →
    events.Perm schedule.events →
    selectWinner (some (reordered schedule events)) today = selectWinner (some schedule) today := by
  intro independent
  have same := independent twiceDocument twice ⟨2024, 12, 25, by decide⟩ twice.events.reverse
    ofJson?_twiceDocument (List.reverse_perm _)
  exact absurd same (by decide +kernel)

end Order

end Theme

end Observance

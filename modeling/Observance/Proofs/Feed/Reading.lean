import Mathlib.Data.List.Sort
import Observance.Proofs.Calendar.Addition
import Observance.Proofs.Feed.Block

/-! # The reading of a feed

Which events a feed has can be said without a draft that is kept from line to line. The blocks of a
feed stand in it at different places. A block gives an event if the last summary in it is not empty,
some start is a date, and the last end that is a date leaves a day before it. The events of the feed
are those that its blocks give, in the order of their places, and no others.
-/

namespace Observance.Feed

variable {lines block : List Text} {line : Text} {event other : FeedEvent}
  {listed found : List FeedEvent}

section Last

variable {α : Type} {given? : Text → Option α} {value : α}

/-- Whether a value is given by a line of a block, and none by any later line. -/
def IsLast (given? : Text → Option α) (block : List Text) (value : α) : Prop :=
  ∃ above line below, block = above ++ line :: below ∧ given? line = some value ∧
    ∀ later ∈ below, given? later = none

theorem lastOf?_eq_some : lastOf? given? block = some value ↔ IsLast given? block value := by
  rw [lastOf?, List.findSome?_eq_some_iff]
  constructor
  · rintro ⟨below, line, above, reversed, gives, silent⟩
    refine ⟨above.reverse, line, below.reverse, ?_, gives, fun later member => ?_⟩
    · simpa using congrArg List.reverse reversed
    · exact silent later (List.mem_reverse.mp member)
  · rintro ⟨above, line, below, rfl, gives, silent⟩
    refine ⟨below.reverse, line, above.reverse, by simp, gives, fun later member => ?_⟩
    exact silent later (List.mem_reverse.mp member)

theorem IsLast.unique {other : α} (isLast : IsLast given? block value)
    (isOther : IsLast given? block other) : value = other :=
  Option.some.inj ((lastOf?_eq_some.mpr isLast).symm.trans (lastOf?_eq_some.mpr isOther))

theorem lastOf?_eq_none : lastOf? given? block = none ↔ ∀ line ∈ block, given? line = none := by
  simp only [lastOf?, List.findSome?_eq_none_iff, List.mem_reverse]

end Last

section Gives

/-- The last day of an event that starts on a given day, and whether its end is a whole day. -/
inductive EndsOn (block : List Text) (start : Date) : Date → Bool → Prop
  /-- No line gives an end. -/
  | unsaid (silent : ∀ line ∈ block, dayOf? "DTEND" line = none) : EndsOn block start start false
  /-- The last end has a time, and lies on the last day. -/
  | timed {stop : Day} (isLast : IsLast (dayOf? "DTEND") block stop)
      (isTimed : stop.isWhole = false) :
    EndsOn block start stop.date false
  /-- The last end is the whole day after the last day. -/
  | whole {stop : Day} {last : Date} (isLast : IsLast (dayOf? "DTEND") block stop)
    (isWhole : stop.isWhole = true) (next : last.number + 1 = stop.date.number) :
    EndsOn block start last true

/-- Whether a block gives an event: the last summary names it, the last start is its first day, and
the last end decides on its last day. -/
structure Gives (block : List Text) (event : FeedEvent) : Prop where
  summary : ∃ summary, IsLast summaryOf? block summary ∧ summary ≠ [] ∧
    event.summary = some (summary)
  start : IsLast (dayOf? "DTSTART") block ⟨event.start, event.startsWholeDay⟩
  stop : ∃ last, event.stop = some last ∧ EndsOn block event.start last event.endsWholeDay

/-- Whether a block says enough for an event. An end on the first whole day of the calendar leaves
none for the event. -/
structure IsComplete (block : List Text) : Prop where
  named : ∃ summary, IsLast summaryOf? block summary ∧ summary ≠ []
  started : ∃ line ∈ block, dayOf? "DTSTART" line ≠ none
  ended : ¬ IsLast (dayOf? "DTEND") block ⟨Date.first, true⟩

/-- What the last lines of a block make of it is the event that it gives. -/
theorem eventOf?_eq_some : eventOf? block = some event ↔ Gives block event := by
  constructor
  · intro gives
    obtain ⟨start, starts, gives⟩ := Option.bind_eq_some_iff.mp gives
    obtain ⟨summary, named, gives⟩ := Option.bind_eq_some_iff.mp gives
    obtain ⟨summaries, filled⟩ := Option.filter_eq_some_iff.mp named
    have isStart := lastOf?_eq_some.mp starts
    have isNamed : ∃ last, IsLast summaryOf? block last ∧ last ≠ [] ∧
        some (summary) = some (last) :=
      ⟨summary, lastOf?_eq_some.mp summaries, by simpa using filled, rfl⟩
    cases stops : lastOf? (dayOf? "DTEND") block with
    | none =>
      rw [stops] at gives
      cases gives
      exact ⟨isNamed, isStart, _, rfl, .unsaid (lastOf?_eq_none.mp stops)⟩
    | some stop =>
      rw [stops] at gives
      have isLast := lastOf?_eq_some.mp stops
      cases isWhole : stop.isWhole with
      | false =>
        simp only [Complete.event?, isWhole, Bool.false_eq_true, if_false] at gives
        cases gives
        exact ⟨isNamed, isStart, _, rfl, .timed isLast isWhole⟩
      | true =>
        simp only [Complete.event?, isWhole, if_true, Option.map_eq_some_iff] at gives
        obtain ⟨last, before, rfl⟩ := gives
        have next := Date.addDays?_eq_some.mp before
        exact ⟨isNamed, isStart, last, rfl, .whole isLast isWhole (by omega)⟩
  · rintro ⟨⟨summary, isSummary, filled, named⟩, isStart, last, isStop, ends⟩
    obtain ⟨eventSummary, start, stop?, startsWholeDay, endsWholeDay⟩ := event
    cases named
    cases isStop
    have summaries : (lastOf? summaryOf? block).filter (!·.isEmpty) = some summary := by
      simp [lastOf?_eq_some.mpr isSummary, Option.filter, filled]
    rw [eventOf?, lastOf?_eq_some.mpr isStart, summaries]
    dsimp only at ends
    cases ends with
    | unsaid silent =>
      rw [lastOf?_eq_none.mpr silent]
      rfl
    | timed isLast isTimed =>
      rw [lastOf?_eq_some.mpr isLast]
      simp [Complete.event?, isTimed]
    | @whole stop _ isLast isWhole next =>
      have before : stop.date.addDays? (-1) = some last := Date.addDays?_eq_some.mpr (by omega)
      rw [lastOf?_eq_some.mpr isLast]
      simp [Complete.event?, isWhole, before]

/-- There is a day before a day of the calendar, unless that is the first one. -/
theorem exists_next_eq_number {date : Date} (later : date ≠ Date.first) :
    ∃ last : Date, last.number + 1 = date.number := by
  have first : Date.first.number = 1 := rfl
  have above : date.number ≠ 1 := fun same => later (Date.number_injective (same.trans first.symm))
  have positive := date.number_pos
  have inCalendar := date.number_le
  obtain ⟨last, -, isLast⟩ :=
    Date.exists_of_number (show 1 ≤ date.number - 1 by omega) (by omega)
  exact ⟨last, by omega⟩

/-- An event has a last day exactly if the end is not on the first whole day of the calendar. -/
theorem exists_endsOn {start : Date} : (∃ last isWhole, EndsOn block start last isWhole) ↔
    ¬ IsLast (dayOf? "DTEND") block ⟨Date.first, true⟩ := by
  constructor
  · rintro ⟨last, isWhole, ends⟩ isFirst
    cases ends with
    | unsaid silent =>
      rw [← lastOf?_eq_none, lastOf?_eq_some.mpr isFirst] at silent
      cases silent
    | timed isLast isTimed =>
      cases isLast.unique isFirst
      cases isTimed
    | whole isLast isWhole next =>
      cases isLast.unique isFirst
      have first : Date.first.number = 1 := rfl
      have positive := last.number_pos
      dsimp only at next
      omega
  · intro notFirst
    cases stops : lastOf? (dayOf? "DTEND") block with
    | none => exact ⟨_, _, .unsaid (lastOf?_eq_none.mp stops)⟩
    | some stop =>
      have isLast := lastOf?_eq_some.mp stops
      cases isWhole : stop.isWhole with
      | false => exact ⟨_, _, .timed isLast isWhole⟩
      | true =>
        have later : stop.date ≠ Date.first := by
          intro same
          rw [← same, ← isWhole] at notFirst
          exact notFirst isLast
        obtain ⟨last, next⟩ := exists_next_eq_number later
        exact ⟨_, _, .whole isLast isWhole next⟩

/-- A block gives an event exactly if it says enough for one. -/
theorem exists_gives : (∃ event, Gives block event) ↔ IsComplete block := by
  constructor
  · rintro ⟨event, ⟨summary, isSummary, filled, -⟩, isStart, last, -, ends⟩
    have ⟨above, line, below, split, gives, _⟩ := isStart
    refine ⟨⟨summary, isSummary, filled⟩, ⟨line, ?_, ?_⟩, exists_endsOn.mp ⟨last, _, ends⟩⟩
    · rw [split]
      exact List.mem_append_right _ (List.mem_cons_self ..)
    · simp [gives]
  · rintro ⟨⟨summary, isSummary, filled⟩, ⟨line, member, gives⟩, notFirst⟩
    obtain ⟨start, starts⟩ : ∃ start, lastOf? (dayOf? "DTSTART") block = some start :=
      Option.ne_none_iff_exists'.mp fun silent => gives (lastOf?_eq_none.mp silent line member)
    obtain ⟨last, isWhole, ends⟩ := exists_endsOn.mpr notFirst
    exact ⟨⟨some (summary), start.date, some last, start.isWhole, isWhole⟩,
      ⟨summary, isSummary, filled, rfl⟩, lastOf?_eq_some.mp starts, last, rfl, ends⟩

end Gives

section Places

/-- Whether a block stands in lines below the opening line with a number, counted from 0. -/
def StandsAt (lines : List Text) (place : Nat) (block : List Text) : Prop :=
  lines[place]? = some opening ∧ Closes (lines.drop (place + 1)) block

/-- Whether events are the reading of some lines: together with the places of their blocks, which
ascend, they are all that the blocks give. -/
def IsReading (lines : List Text) (found : List FeedEvent) : Prop :=
  ∃ placed : List (Nat × FeedEvent), placed.map Prod.snd = found ∧
    placed.Pairwise (fun first second => first.1 < second.1) ∧
    ∀ place event, (place, event) ∈ placed ↔
      ∃ block, StandsAt lines place block ∧ Gives block event

theorem isReading_nil : IsReading [] [] := ⟨[], rfl, .nil, by simp [StandsAt]⟩

/-- What a block at the first line gives is read before all else. -/
theorem IsReading.cons {own : Option FeedEvent} (reading : IsReading lines found)
    (isOwn : ∀ event, own = some event ↔ ∃ block, StandsAt (line :: lines) 0 block ∧
      Gives block event) :
    IsReading (line :: lines) (own.toList ++ found) := by
  obtain ⟨placed, rfl, ascending, complete⟩ := reading
  refine ⟨own.toList.map (0, ·) ++ placed.map fun entry => (entry.1 + 1, entry.2), ?_, ?_, ?_⟩
  · simp [Function.comp_def]
  · refine List.pairwise_append.mpr ⟨?_, ?_, ?_⟩
    · cases own <;> simp
    · exact List.pairwise_map.mpr (ascending.imp Nat.succ_lt_succ)
    · intro first isFirst second isSecond
      obtain ⟨_, -, rfl⟩ := List.mem_map.mp isFirst
      obtain ⟨_, -, rfl⟩ := List.mem_map.mp isSecond
      exact Nat.succ_pos _
  · intro place event
    cases place with
    | zero => simp [← isOwn]
    | succ place =>
      have moved : (∃ block, StandsAt (line :: lines) (place + 1) block ∧ Gives block event) ↔
          (place, event) ∈ placed := (complete place event).symm
      rw [moved]
      simp

/-- The events that a scan finds are the reading of its lines. -/
theorem isReading_scan (lines : List Text) :
    IsReading lines ((scan none lines).filterMap Complete.event?) := by
  induction lines with
  | nil => exact isReading_nil
  | cons line lines ih =>
    have begins (block : List Text) :
        StandsAt (line :: lines) 0 block ↔ line = opening ∧ Closes lines block := by
      simp [StandsAt]
    by_cases isBegun : line = opening ∧ ∃ block, Closes lines block
    · obtain ⟨rfl, block, closes⟩ := isBegun
      rw [scan, if_pos rfl, filterMap_scan_of_closes closes, complete?_foldl]
      refine ih.cons fun event => ?_
      rw [eventOf?_eq_some]
      constructor
      · exact fun gives => ⟨block, (begins block).mpr ⟨rfl, closes⟩, gives⟩
      · rintro ⟨other, stands, gives⟩
        obtain ⟨-, closesOther⟩ := (begins other).mp stands
        rwa [closes.eq_takeWhile, ← closesOther.eq_takeWhile]
    · have passed : scan none (line :: lines) = scan none lines := by
        by_cases isOpening : line = opening
        · rw [scan, if_pos isOpening]
          exact scan_of_not_closes (fun block closes => isBegun ⟨isOpening, block, closes⟩) {}
        · have unopened : opening ∉ [line] := by simpa using Ne.symm isOpening
          exact scan_none_append unopened lines
      have nothing (event : FeedEvent) : none = some event ↔
          ∃ block, StandsAt (line :: lines) 0 block ∧ Gives block event := by
        constructor
        · intro impossible
          cases impossible
        · rintro ⟨block, stands, -⟩
          obtain ⟨isOpening, closes⟩ := (begins block).mp stands
          exact absurd ⟨isOpening, block, closes⟩ isBegun
      rw [passed]
      exact ih.cons nothing

/-- Lines have only one reading. -/
theorem IsReading.unique (reading : IsReading lines found) (isListed : IsReading lines listed) :
    found = listed := by
  obtain ⟨placed, rfl, ascending, complete⟩ := reading
  obtain ⟨others, rfl, othersAscending, othersComplete⟩ := isListed
  have : Std.Irrefl fun first second : Nat × FeedEvent => first.1 < second.1 :=
    ⟨fun entry => Nat.lt_irrefl entry.1⟩
  have : Std.Antisymm fun first second : Nat × FeedEvent => first.1 < second.1 :=
    ⟨fun first second before after => absurd before (Nat.lt_asymm after)⟩
  rw [ascending.eq_of_mem_iff othersAscending fun entry =>
    (complete entry.1 entry.2).trans (othersComplete entry.1 entry.2).symm]

/-- The events of a text are the reading of its logical lines: for each block that says enough they
have the one that it gives, in the order of the blocks, and there are no others. -/
theorem events_eq_iff_isReading (text : Text) (listed : List FeedEvent) :
    (events text = listed ↔ IsReading (unfoldLines text) listed) ∧
      ∀ block, (∃ event, Gives block event) ↔ IsComplete block := by
  refine ⟨⟨?_, fun isListed => (isReading_scan _).unique isListed⟩, fun block => exists_gives⟩
  rintro rfl
  exact isReading_scan _

end Places

end Observance.Feed

import Observance.Proofs.Calendar.Addition
import Observance.Proofs.Feed.Folding
import Observance.Proofs.Feed.Property

/-! # Events that are had back

The events that are written in a feed are those that are parsed from it. The properties of an event
may come in any order and among others, with any parameters besides the one that says that a day is
whole; any time may come after a date; there may be other lines between events; and each line may
be folded anywhere. An end that is a whole day is written as the day after it, which has to be in
the calendar.
-/

namespace Observance.Feed

open Text

section Written

/-- An event to be written; its summary is not empty and has no blanks at its ends. -/
structure WrittenEvent where
  summary : Text
  start : Day
  last : Option Day
  named : summary ≠ []
  trimmed : trim summary = summary

/-- The event that is to be had back. Without a last day it lasts one day. -/
def WrittenEvent.event (written : WrittenEvent) : FeedEvent where
  summary := some written.summary
  start := written.start.date
  stop := some (written.last.elim written.start.date Day.date)
  startsWholeDay := written.start.isWhole
  endsWholeDay := written.last.any Day.isWhole

/-- The day that an end is written as: the one after the last day, if that is a whole day. -/
def Day.afterLast? (last : Day) : Option Day :=
  if last.isWhole then (last.date.addDays? 1).map fun date => ⟨date, true⟩ else some last

def IsSummaryLine (summary : Text) (line : Text) : Prop :=
  ∃ parameters, (∀ parameter ∈ parameters, IsPlainName parameter) ∧
    line = propertyLine "SUMMARY" parameters summary

/-- Whether a line gives a day under a name. Anything may follow the eight digits of its date. -/
def IsDayLine (name : Text) (day : Day) (line : Text) : Prop :=
  ∃ parameters time, (∀ parameter ∈ parameters, IsPlainName parameter) ∧
    parameters.any isDateParameter = day.isWhole ∧
      line = propertyLine name parameters (day.date.digits ++ time)

/-- Whether a line gives the end of an event with a last day. -/
def IsStopLine (last : Day) (line : Text) : Prop :=
  ∃ stop, last.afterLast? = some stop ∧ IsDayLine "DTEND" stop line

/-- Whether a line neither begins or ends an event nor gives anything of it. -/
structure IsFurther (line : Text) : Prop where
  unopened : line ≠ opening
  unclosed : line ≠ closing
  unknown : ∀ name ∈ (["SUMMARY", "DTSTART", "DTEND"] : List Text), propertyOf? name line = none

/-- Whether an event is written as the lines between an opening and a closing one. -/
inductive IsBody (written : WrittenEvent) (body : List Text) : Prop
  | intro (summary start : Text) (stop? : Option Text) (further : List Text)
      (order : body.Perm (summary :: start :: stop?.toList ++ further))
      (isSummary : IsSummaryLine written.summary summary)
      (isStart : IsDayLine "DTSTART" written.start start)
      (isStop : Option.Rel IsStopLine written.last stop?)
      (areFurther : ∀ line ∈ further, IsFurther line)

/-- Whether lines are those of a feed with some events, in their order. -/
inductive Writes : List WrittenEvent → List Text → Prop
  | nil : Writes [] []
  | between {events : List WrittenEvent} {lines : List Text} {line : Text}
      (unopened : line ≠ opening) (unclosed : line ≠ closing) (later : Writes events lines) :
      Writes events (line :: lines)
  | block {events : List WrittenEvent} {lines : List Text} {written : WrittenEvent}
      {body : List Text} (isBody : IsBody written body) (later : Writes events lines) :
      Writes (written :: events) (opening :: (body ++ closing :: lines))

end Written

section Lines

variable {name key : Text} {day last : Day} {line : Text} {written : WrittenEvent}

theorem IsSummaryLine.propertyOf?_eq {summary : Text} (isLine : IsSummaryLine summary line) :
    ∃ parameters, propertyOf? key line = if "SUMMARY" = key then
      some ⟨"SUMMARY", parameters, trim summary⟩ else none := by
  obtain ⟨parameters, plain, rfl⟩ := isLine
  exact ⟨_, propertyOf?_propertyLine (by decide) plain _⟩

theorem IsSummaryLine.summaryOf?_eq (isLine : IsSummaryLine written.summary line) :
    summaryOf? line = some written.summary := by
  obtain ⟨parameters, property⟩ := isLine.propertyOf?_eq
  rw [summaryOf?, property, if_pos rfl, Option.map_some, written.trimmed]

theorem IsSummaryLine.dayOf?_eq {summary : Text} (isLine : IsSummaryLine summary line)
    (other : Text.ofString "SUMMARY" ≠ key) : dayOf? key line = none := by
  obtain ⟨parameters, property⟩ := isLine.propertyOf?_eq
  rw [dayOf?, property, if_neg other, Option.bind_none]

theorem IsDayLine.dayOf?_eq (isLine : IsDayLine name day line)
    (plainName : IsPlainName name) (key : Text) :
    dayOf? key line = if name = key then some day else none := by
  obtain ⟨parameters, time, plain, isWhole, rfl⟩ := isLine
  rw [dayOf?, propertyOf?_propertyLine plainName plain]
  split
  · rw [Option.bind_some, Property.day?, dateOfValue?_trim, declaresDate_joinWith plain, isWhole]
    rfl
  · rfl

theorem IsDayLine.summaryOf?_eq (isLine : IsDayLine name day line)
    (plainName : IsPlainName name) (other : name ≠ "SUMMARY") : summaryOf? line = none := by
  obtain ⟨parameters, time, plain, -, rfl⟩ := isLine
  rw [summaryOf?, propertyOf?_propertyLine plainName plain, if_neg other, Option.map_none]

theorem IsFurther.summaryOf?_eq (isFurther : IsFurther line) : summaryOf? line = none := by
  rw [summaryOf?, isFurther.unknown "SUMMARY" (by simp), Option.map_none]

theorem IsFurther.dayOf?_eq (isFurther : IsFurther line)
    (known : key ∈ (["DTSTART", "DTEND"] : List Text)) : dayOf? key line = none := by
  rw [dayOf?, isFurther.unknown key (List.mem_cons_of_mem _ known), Option.bind_none]

/-- A line that gives a day or a summary neither opens nor closes an event. -/
theorem not_marker_of_gives {α : Type} {given? : Text → Option α} {value : α}
    (unopened : given? opening = none) (unclosed : given? closing = none)
    (gives : given? line = some value) : line ≠ opening ∧ line ≠ closing := by
  constructor
  · rintro rfl
    cases unopened.symm.trans gives
  · rintro rfl
    cases unclosed.symm.trans gives

end Lines

section Bodies

variable {block lines further body : List Text} {written : WrittenEvent}

/-- What a block says of a property does not depend on the order of lines if only one gives it. -/
theorem lastOf?_of_perm {α : Type} {given? : Text → Option α} {value? : Option α}
    (order : block.Perm (lines ++ further)) (silent : ∀ line ∈ further, given? line = none)
    (given : lines.filterMap given? = value?.toList) : lastOf? given? block = value? := by
  have values := order.filterMap given?
  rw [List.filterMap_append, given, List.filterMap_eq_nil_iff.mpr silent, List.append_nil] at values
  rw [lastOf?, ← List.head?_filterMap, List.filterMap_reverse]
  cases value? with
  | none => rw [List.perm_nil.mp values, List.reverse_nil, List.head?_nil]
  | some value => rw [List.perm_singleton.mp values, List.reverse_singleton, List.head?_singleton]

/-- The end that is written is taken back by a day, if it is a whole one. -/
theorem event?_of_afterLast? {stop? : Option Day}
    (written? : Option.Rel (fun last stop => last.afterLast? = some stop) written.last stop?) :
    Complete.event? ⟨written.summary, written.start, stop?⟩ = some written.event := by
  unfold WrittenEvent.event
  generalize written.last = last? at written? ⊢
  cases written? with
  | none => rfl
  | @some last stop after =>
    unfold Day.afterLast? at after
    split at after
    next isWhole =>
      obtain ⟨next, added, rfl⟩ := Option.map_eq_some_iff.mp after
      have back : next.addDays? (-1) = some last.date := by
        rw [Date.addDays?_eq_some] at added ⊢
        omega
      simp [Complete.event?, back, isWhole]
    next notWhole =>
      cases after
      simp [Complete.event?, notWhole]

/-- The line of an end gives the day that the end is written as, and no start or summary. -/
theorem exists_of_isStopLine {last? : Option Day} {stop? : Option Text}
    (isStop : Option.Rel IsStopLine last? stop?) :
    ∃ day?, Option.Rel (fun last stop => last.afterLast? = some stop) last? day? ∧
      stop?.toList.filterMap (dayOf? "DTEND") = day?.toList ∧
      stop?.toList.filterMap (dayOf? "DTSTART") = [] ∧ stop?.toList.filterMap summaryOf? = [] := by
  cases isStop with
  | none => exact ⟨none, .none, rfl, rfl, rfl⟩
  | some isLine =>
    obtain ⟨stop, after, isDay⟩ := isLine
    have gives := isDay.dayOf?_eq (by decide)
    refine ⟨some stop, .some after, ?_, ?_, ?_⟩
    · simp [gives "DTEND"]
    · simp [gives "DTSTART"]
    · simp [isDay.summaryOf?_eq (by decide) (by decide)]

/-- The lines of an event give it. -/
theorem IsBody.eventOf?_eq (isBody : IsBody written body) : eventOf? body = some written.event := by
  obtain ⟨summary, start, stop?, further, order, isSummary, isStart, isStop, areFurther⟩ := isBody
  obtain ⟨day?, after, stops, notStarts, notSummaries⟩ := exists_of_isStopLine isStop
  have startGives := isStart.dayOf?_eq (by decide)
  -- Of the summary, the start and the end, one line gives each and all others nothing.
  have summaries : lastOf? summaryOf? body = some written.summary := by
    refine lastOf?_of_perm order (fun line member => (areFurther line member).summaryOf?_eq) ?_
    simp [isSummary.summaryOf?_eq, isStart.summaryOf?_eq (by decide) (by decide), notSummaries]
  have starts : lastOf? (dayOf? "DTSTART") body = some written.start := by
    refine lastOf?_of_perm order
      (fun line member => (areFurther line member).dayOf?_eq (by simp)) ?_
    simp [isSummary.dayOf?_eq, startGives "DTSTART", notStarts]
  have stops : lastOf? (dayOf? "DTEND") body = day? := by
    refine lastOf?_of_perm order
      (fun line member => (areFurther line member).dayOf?_eq (by simp)) ?_
    simp [isSummary.dayOf?_eq, startGives "DTEND", stops]
  have named : (some written.summary).filter (!·.isEmpty) = some written.summary := by
    simp [Option.filter, written.named]
  rw [eventOf?, starts, summaries, stops, named]
  simp only [Option.bind_eq_bind, Option.bind_some]
  exact event?_of_afterLast? after

/-- No line of an event opens or closes one. -/
theorem IsBody.not_marker (isBody : IsBody written body) : opening ∉ body ∧ closing ∉ body := by
  obtain ⟨summary, start, stop?, further, order, isSummary, isStart, isStop, areFurther⟩ := isBody
  have unmarked : ∀ line ∈ body, line ≠ opening ∧ line ≠ closing := by
    intro line member
    rw [order.mem_iff, List.mem_append, List.mem_cons, List.mem_cons, Option.mem_toList] at member
    rcases member with (rfl | rfl | isStopLine) | isFurther
    · exact not_marker_of_gives (by decide) (by decide) isSummary.summaryOf?_eq
    · exact not_marker_of_gives (by decide) (by decide) (isStart.dayOf?_eq (by decide) "DTSTART")
    · subst isStopLine
      generalize written.last = last? at isStop
      cases isStop with
      | some isLine =>
        obtain ⟨stop, -, isDay⟩ := isLine
        exact not_marker_of_gives (by decide) (by decide) (isDay.dayOf?_eq (by decide) "DTEND")
    · exact ⟨(areFurther line isFurther).unopened, (areFurther line isFurther).unclosed⟩
  exact ⟨fun member => (unmarked _ member).1 rfl, fun member => (unmarked _ member).2 rfl⟩

end Bodies

section Feeds

variable {lines : List Text}

/-- The events that are written come before those of later lines. -/
theorem filterMap_scan_of_writes {events : List WrittenEvent} (writes : Writes events lines)
    (later : List Text) :
    (scan none (lines ++ later)).filterMap Complete.event? =
      events.map WrittenEvent.event ++ (scan none later).filterMap Complete.event? := by
  induction writes with
  | nil => rfl
  | between unopened unclosed writes ih =>
    rw [List.cons_append, scan, if_neg unopened, if_neg unclosed, Option.map_none, ih]
  | @block events lines written body isBody writes ih =>
    obtain ⟨unopened, unclosed⟩ := isBody.not_marker
    have gives : (body.foldl Draft.addLine {}).complete?.toList.filterMap Complete.event? =
        [written.event] := by
      have event := isBody.eventOf?_eq
      rw [← complete?_foldl] at event
      obtain ⟨complete, completed, gives⟩ := Option.bind_eq_some_iff.mp event
      simp [completed, gives]
    rw [List.cons_append, List.append_assoc, List.cons_append, scan, if_pos rfl,
      scan_closing unopened unclosed, List.filterMap_append, gives, ih]
    rfl

/-- The events of a text are those that are written in it, in their order, wherever its lines are
folded. -/
theorem events_texts (written : List WrittenEvent) (lines : List FoldedLine)
    (writes : Writes written (lines.map FoldedLine.content)) :
    events ((lines.flatMap FoldedLine.text)) = written.map WrittenEvent.event := by
  rw [events, completes, unfoldLines_texts, filterMap_scan_of_writes writes]
  exact List.append_nil _

end Feeds

section Fair

/-- A fair from a noon to the end of the next day. -/
def fair : WrittenEvent where
  summary := "Fair"
  start := ⟨⟨2030, 2, 27, by decide⟩, false⟩
  last := some ⟨⟨2030, 2, 28, by decide⟩, true⟩
  named := by decide
  trimmed := by decide

def fairBody : List Text :=
  ["DTEND;VALUE=DATE:20300301", "SUMMARY:Fair", "UID:1;2",
    "DTSTART;X=1:20300227T12"]

theorem isBody_fairBody : IsBody fair fairBody := by
  refine .intro "SUMMARY:Fair" "DTSTART;X=1:20300227T12"
    (some "DTEND;VALUE=DATE:20300301") ["UID:1;2"] (by decide +kernel) ?_ ?_
    (.some ?_) ?_
  · exact ⟨[], by decide, rfl⟩
  · exact ⟨["X=1"], "T12", by decide +kernel, by decide +kernel, rfl⟩
  · exact ⟨⟨⟨2030, 3, 1, by decide⟩, true⟩, by decide +kernel, ["VALUE=DATE"], [],
      by decide +kernel, by decide +kernel, rfl⟩
  · intro line member
    cases List.mem_singleton.mp member
    exact ⟨by decide +kernel, by decide +kernel, by decide +kernel⟩

def wholeLine (text : Text) (begins : isContinuation text = false)
    (single : IsSingleLine text) : FoldedLine :=
  ⟨text, [], .lineFeed, begins, single⟩

def fairSummary : FoldedLine where
  first := "SUMM"
  folds := [⟨.returnAndLineFeed, ' ', "ARY:F", .inl rfl, by decide⟩,
    ⟨.lineFeed, '\t', "air", .inr rfl, by decide⟩]
  lineEnd := .returnAndLineFeed
  begins := rfl
  single := by decide

def fairLines : List FoldedLine :=
  [wholeLine "VERSION:2" (by decide) (by decide), wholeLine "BEGIN:VEVENT" (by decide) (by decide),
    wholeLine "DTEND;VALUE=DATE:20300301" (by decide) (by decide), fairSummary,
    wholeLine "UID:1;2" (by decide) (by decide),
    wholeLine "DTSTART;X=1:20300227T12" (by decide) (by decide),
    wholeLine "END:VEVENT" (by decide) (by decide)]

/-- The fair is had back, although its summary is folded and its end comes before its start. -/
theorem events_texts_fair :
    events (fairLines.flatMap FoldedLine.text) = [⟨some "Fair",
      ⟨2030, 2, 27, by decide⟩, some ⟨2030, 2, 28, by decide⟩, false, true⟩] := by
  have contents : fairLines.map FoldedLine.content =
      ("VERSION:2" : Text) :: opening :: (fairBody ++ closing :: []) := by decide +kernel
  refine events_texts [fair] fairLines ?_
  rw [contents]
  exact .between (by decide) (by decide) (.block isBody_fairBody .nil)

end Fair

end Observance.Feed

import Observance.Proofs.Schedule.WholeDays

/-! # Events that end before they start

What a feed gives as the end of an event is not compared with the start. An end before the start is
taken over, and so is a whole day as an end that is itself the start, of which the day before
remains. Everything that is made of such an event keeps its days: it ends before it starts, and the
page shows it on its own start only if the days after it reach that far. Nothing else gives a range
without days, for all other events of a feed end on their start or later, and fixed days are single
ones.
-/

namespace Observance

open Calendar Feed Resolver Result

/-- Whether the last day of an event of a feed is its first or comes after it. -/
def FeedEvent.IsInOrder (event : FeedEvent) : Prop :=
  ∃ stop, event.stop = some stop ∧ event.start ≤ stop

def Event.IsInOrder (event : Event Text) : Prop :=
  ∃ start stop : Date, event.startDate = start.text ∧ event.endDate = stop.text ∧ start ≤ stop

namespace Feed

variable {block : List Text} {event : FeedEvent} {text : Text}

/-- Whether the end that a block gives leaves no day from its start on. A whole day as an end is the
day after the last one. -/
def EndsEarly (block : List Text) : Prop :=
  ∃ start, lastOf? (dayOf? "DTSTART") block = some start ∧
    ∃ stop, lastOf? (dayOf? "DTEND") block = some stop ∧
      if stop.isWhole then stop.date ≤ start.date else stop.date < start.date

/-- The event of a block has a last day, which comes before its first exactly if the block ends
early. -/
theorem exists_stop_of_eventOf? (gives : eventOf? block = some event) :
    ∃ stop, event.stop = some stop ∧ (event.start ≤ stop ↔ ¬ EndsEarly block) := by
  simp only [eventOf?, Option.bind_eq_bind, Option.bind_eq_some_iff] at gives
  obtain ⟨start, starts, summary, -, gives⟩ := gives
  cases stops : lastOf? (dayOf? "DTEND") block with
  | none =>
    rw [stops] at gives
    cases gives
    have sameDay : start.date ≤ start.date := le_refl start.date.number
    exact ⟨start.date, rfl, by simp [EndsEarly, stops, sameDay]⟩
  | some stop =>
    have early : EndsEarly block ↔
        if stop.isWhole then stop.date ≤ start.date else stop.date < start.date := by
      simp only [EndsEarly, starts, stops, Option.some.injEq, exists_eq_left']
    rw [stops] at gives
    cases isWhole : stop.isWhole with
    | false =>
      simp only [Complete.event?, isWhole, Bool.false_eq_true, if_false] at gives early
      cases gives
      refine ⟨stop.date, rfl, ?_⟩
      rw [early]
      change start.date.number ≤ stop.date.number ↔ ¬ stop.date.number < start.date.number
      omega
    | true =>
      simp only [Complete.event?, isWhole, if_true, Option.map_eq_some_iff] at gives early
      -- The last day is the one before the end, so an end on the start leaves none.
      obtain ⟨last, before, rfl⟩ := gives
      have number := Date.addDays?_eq_some.mp before
      refine ⟨last, rfl, ?_⟩
      rw [early]
      change start.date.number ≤ last.number ↔ ¬ stop.date.number ≤ start.date.number
      omega

theorem isInOrder_of_eventOf? (gives : eventOf? block = some event) :
    event.IsInOrder ↔ ¬ EndsEarly block := by
  obtain ⟨stop, isStop, inOrder⟩ := exists_stop_of_eventOf? gives
  simp only [FeedEvent.IsInOrder, isStop, Option.some.injEq, exists_eq_left', inOrder]

/-- An event of a text ends before it starts exactly if a block that gives it ends early. -/
theorem isInOrder_iff (member : event ∈ events text) :
    event.IsInOrder ↔ ¬ ∃ block, IsParsedFrom text block event ∧ EndsEarly block := by
  obtain ⟨block, parsed⟩ := mem_events.mp member
  constructor
  · rintro inOrder ⟨other, isOther, early⟩
    exact (isInOrder_of_eventOf? isOther.gives).mp inOrder early
  · intro punctual
    exact (isInOrder_of_eventOf? parsed.gives).mpr fun early => punctual ⟨block, parsed, early⟩

end Feed

namespace Resolver

variable {resolver : Resolver} {feed : List FeedEvent} {rule : Rule} {rules : List Rule}
  {events own : List (Event Text)} {event : Event Text}

theorem isInOrder_resolvedEvent {start stop : Date} :
    (resolvedEvent rule start stop).IsInOrder ↔ start ≤ stop := by
  constructor
  · rintro ⟨first, last, startDate, endDate, inOrder⟩
    rw [Date.text_injective startDate, Date.text_injective endDate]
    exact inOrder
  · exact fun inOrder => ⟨start, stop, rfl, rfl, inOrder⟩

/-- An event of a rule has a single day, or the days of an event of the feed. -/
theorem days_of_mem_resolveRule (success : resolver.resolveRule feed rule = .ok own)
    (member : event ∈ own) :
    (∃ day, event = resolvedEvent rule day day) ∨
      ∃ found ∈ feed, event = resolvedEvent rule found.start (found.stop.getD found.start) := by
  cases resolveRule_eq_ok.mp success with
  | calendar isCalendar chosen =>
    obtain ⟨found, rfl, rfl⟩ := Option.map_eq_some_iff.mp (Option.mem_toList.mp member)
    exact .inr ⟨found, mem_of_choose? chosen, rfl⟩
  | @fixed _ _ current next =>
    simp only [List.mem_cons, List.not_mem_nil, or_false] at member
    rcases member with rfl | rfl
    · exact .inl ⟨current, rfl⟩
    · exact .inl ⟨next, rfl⟩

/-- Among the events of rules with different ids, each is one of a rule by itself. -/
theorem exists_resolveRule_of_mem (distinct : (rules.map (·.id)).Nodup)
    (success : resolver.resolve rules feed = .ok events) (member : event ∈ events) :
    ∃ rule ∈ rules, ∃ own, resolver.resolveRule feed rule = .ok own ∧ event ∈ own := by
  obtain ⟨rule, known, start, stop, rfl⟩ := exists_of_mem_resolve success event member
  obtain ⟨own, resolved, same⟩ := exists_perm_entriesOf distinct success known
  refine ⟨rule, known, own, resolved, same.mem_iff.mp ?_⟩
  exact List.mem_filter.mpr ⟨member, beq_self_eq_true _⟩

/-- A resolved event ends before it starts exactly if its rule has taken it from a block of the feed
that ends early. -/
theorem isInOrder_of_mem_resolve {text : Text} (distinct : (rules.map (·.id)).Nodup)
    (success : resolver.resolve rules (Feed.events text) = .ok events) (member : event ∈ events) :
    event.IsInOrder ↔ ¬ ∃ rule ∈ rules, ∃ block found stop, IsParsedFrom text block found ∧
      found.stop = some stop ∧ event = resolvedEvent rule found.start stop ∧ EndsEarly block := by
  constructor
  · rintro inOrder ⟨rule, -, block, found, stop, parsed, isStop, rfl, early⟩
    refine (isInOrder_of_eventOf? parsed.gives).mp ⟨stop, isStop, ?_⟩ early
    exact isInOrder_resolvedEvent.mp inOrder
  · intro punctual
    obtain ⟨rule, known, own, resolved, isOwn⟩ := exists_resolveRule_of_mem distinct success member
    -- Fixed days are in order by themselves, so only those of the feed are left.
    rcases days_of_mem_resolveRule resolved isOwn with ⟨day, rfl⟩ | ⟨found, inFeed, rfl⟩
    · exact isInOrder_resolvedEvent.mpr (le_refl day.number)
    · obtain ⟨block, parsed⟩ := mem_events.mp inFeed
      obtain ⟨stop, isStop, inOrder⟩ := exists_stop_of_eventOf? parsed.gives
      rw [isStop, Option.getD_some] at punctual ⊢
      refine isInOrder_resolvedEvent.mpr (inOrder.mpr fun early => punctual ?_)
      exact ⟨rule, known, block, found, stop, parsed, isStop, rfl, early⟩

end Resolver

namespace Schedule

/-- The page shows an event on its own start if it does not end more than the days after it before
that, so in any case if it is in order. -/
theorem isActive_start {document : Json} {schedule : CheckedSchedule} {event : Event Text}
    (read : ofJson? document = some schedule) (member : event ∈ schedule.events) :
    ∃ start stop : Date, event.startDate = start.text ∧ event.endDate = stop.text ∧
      Theme.isActive schedule.window event start =
        .ok (decide ((start.number : Int) ≤ stop.number + schedule.window.daysAfter)) ∧
      (event.IsInOrder → Theme.isActive schedule.window event start = .ok true) := by
  obtain ⟨publishable, isKept⟩ := isKept_of_ofJson? read event member
  obtain ⟨start, startDate⟩ := publishable.startDate
  obtain ⟨stop, endDate⟩ := publishable.endDate
  have usable := (isPublishable_of_ofJson? read).1.window
  have before := Window.nonneg_of_isAllowed usable.daysBefore
  have after := Window.nonneg_of_isAllowed usable.daysAfter
  have covers : Theme.Covers schedule.window start stop start ↔
      (start.number : Int) ≤ stop.number + schedule.window.daysAfter := by
    rw [Event.covers_iff_of_isKept startDate endDate isKept]
    omega
  have active : Theme.isActive schedule.window event start =
      .ok (decide ((start.number : Int) ≤ stop.number + schedule.window.daysAfter)) := by
    rw [Theme.isActive_eq startDate endDate, decide_eq_decide.mpr covers]
  refine ⟨start, stop, startDate, endDate, active, ?_⟩
  rintro ⟨first, last, sameStart, sameEnd, inOrder⟩
  obtain rfl := Date.text_injective (startDate.symm.trans sameStart)
  obtain rfl := Date.text_injective (endDate.symm.trans sameEnd)
  change start.number ≤ stop.number at inOrder
  rw [active, decide_eq_true (by omega)]

/-- Days are in order from the feed to the page, except for those of blocks that end early. Their
events end before they start, the rules that take them are resolved to such days, and the page shows
an event on its own start exactly if the days after it reach it. -/
theorem isInOrder_iff_not_endsEarly (text : Text) (page : Json) :
    (∀ event ∈ Feed.events text,
      (event.IsInOrder ↔ ¬ ∃ block, IsParsedFrom text block event ∧ EndsEarly block)) ∧
    (∀ (document : Json) (rules : RuleSet) (resolver : Resolver) (events : List (Event Text)),
      RuleSet.ofJson document = .ok rules →
      resolver.resolve rules.rules (Feed.events text) = .ok events → ∀ event ∈ events,
      (event.IsInOrder ↔ ¬ ∃ rule ∈ rules.rules, ∃ block found stop,
        IsParsedFrom text block found ∧ found.stop = some stop ∧
          event = resolvedEvent rule found.start stop ∧ EndsEarly block)) ∧
    (∀ schedule : CheckedSchedule, ofJson? page = some schedule →
      ∀ event ∈ schedule.events, ∃ start stop : Date, event.startDate = start.text ∧
        event.endDate = stop.text ∧
        Theme.isActive schedule.window event start =
          .ok (decide ((start.number : Int) ≤ stop.number + schedule.window.daysAfter)) ∧
        (event.IsInOrder → Theme.isActive schedule.window event start = .ok true)) := by
  refine ⟨fun event member => Feed.isInOrder_iff member, ?_, ?_⟩
  · intro document rules resolver events accepted resolved event member
    exact isInOrder_of_mem_resolve (RuleSet.nodup_ids_of_ofJson accepted) resolved member
  · intro schedule read event member
    exact isActive_start read member

section Fair

/-- A feed with an event whose end is given as the whole day of its start. -/
def fairFeed : Text :=
  "BEGIN:VEVENT\nSUMMARY:Fair\nDTSTART;VALUE=DATE:20240302\n" ++
    "DTEND;VALUE=DATE:20240302\nEND:VEVENT\n"

/-- The event, which ends on the day before it starts. -/
def fairEvent : FeedEvent :=
  { summary := some "Fair", start := ⟨2024, 3, 2, by decide⟩
    stop := some ⟨2024, 3, 1, by decide⟩, startsWholeDay := true, endsWholeDay := true }

/-- A document with such an event, without days before and after it. -/
def fairDocument : Json :=
  .object [
    ("window", .object [("daysBefore", .integer 0), ("daysAfter", .integer 0)]),
    ("resolvedEvents", .array [.object [
      ("id", .text "feast"), ("name", .text "Feast"), ("importance", .text "religious_major"),
      ("themeId", .text "lilies"), ("startDate", .text "2024-03-02"),
      ("endDate", .text "2024-03-01")]])]

def fairPage : CheckedSchedule :=
  ⟨"", ⟨0, 0⟩, [], [⟨"feast", "Feast", "religious_major", "lilies", "2024-03-02", "2024-03-01"⟩]⟩

theorem mem_fairFeed : fairEvent ∈ Feed.events fairFeed := by decide +kernel

theorem not_isInOrder_fairEvent : ¬ fairEvent.IsInOrder := by
  rintro ⟨stop, isStop, inOrder⟩
  cases isStop
  exact absurd inOrder (by decide)

/-- A block of the feed ends early, the rule for feasts is resolved to its days, and the page does
not show them on the first. -/
theorem isInOrder_iff_not_endsEarly_fair :
    (∃ block, IsParsedFrom fairFeed block fairEvent ∧ EndsEarly block) ∧
    (∃ rule ∈ feastRules.rules, ∃ block found stop, IsParsedFrom fairFeed block found ∧
      found.stop = some stop ∧
        resolvedEvent feastRule ⟨2024, 3, 2, by decide⟩ ⟨2024, 3, 1, by decide⟩ =
          resolvedEvent rule found.start stop ∧ EndsEarly block) ∧
    ∀ event ∈ fairPage.events,
      Theme.isActive fairPage.window event ⟨2024, 3, 2, by decide⟩ = .ok false := by
  obtain ⟨parsed, taken, shown⟩ := isInOrder_iff_not_endsEarly fairFeed fairDocument
  refine ⟨?_, ?_, ?_⟩
  · exact not_not.mp fun none => not_isInOrder_fairEvent ((parsed _ mem_fairFeed).mpr none)
  · have resolved : february.resolve feastRules.rules (Feed.events fairFeed) = .ok
        [resolvedEvent feastRule ⟨2024, 3, 2, by decide⟩ ⟨2024, 3, 1, by decide⟩] :=
      toOption_eq_some.mp (by decide +kernel)
    refine not_not.mp fun none => ?_
    have inOrder := (taken _ _ _ _ ofJson_feastDocument resolved _
      (List.mem_singleton.mpr rfl)).mpr none
    exact absurd (isInOrder_resolvedEvent.mp inOrder) (by decide)
  · have read : ofJson? fairDocument = some fairPage := by decide +kernel
    have first : (⟨2024, 3, 2, by decide⟩ : Date).text = "2024-03-02" := by decide +kernel
    have last : (⟨2024, 3, 1, by decide⟩ : Date).text = "2024-03-01" := by decide +kernel
    intro event member
    obtain ⟨start, stop, startDate, endDate, active, -⟩ := shown _ read event member
    obtain rfl := List.mem_singleton.mp member
    obtain rfl := Date.text_injective (first.trans startDate)
    obtain rfl := Date.text_injective (last.trans endDate)
    rw [active]
    decide +kernel

/-- Not every event of every feed is in order. -/
theorem exists_not_isInOrder :
    ¬ ∀ (text : Text), ∀ event ∈ Feed.events text, event.IsInOrder :=
  fun inOrder => not_isInOrder_fairEvent (inOrder fairFeed fairEvent mem_fairFeed)

end Fair

end Schedule

end Observance

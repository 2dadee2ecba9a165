import Observance.Proofs.Feed.Block
import Observance.Proofs.Resolver.Entries
import Observance.Proofs.Theme.Activity

/-! # Whole days from the feed to the page

An event that ends with a whole day is given with the day after its last one. That day is taken
back when the feed is read, and the days of the window are added when the page asks whether a day
is active. In between the dates are written as texts and read again. Over all of this the active
days are the event's own days and those of the window, and nothing else becomes of the event unless
the window leaves the calendar.
-/

namespace Observance

open Calendar Feed Resolver Result

namespace Feed

/-- The last day of an event that ends with a whole day is the one before the day that it gives. -/
theorem days_of_eventOf? {block : List Text} {event : FeedEvent} {start stop : Date}
    (gives : eventOf? block = some event)
    (starts : lastOf? (dayOf? "DTSTART") block = some ⟨start, true⟩)
    (stops : lastOf? (dayOf? "DTEND") block = some ⟨stop, true⟩) :
    event.start = start ∧ ∃ last, event.stop = some last ∧
      (last.number : Int) = stop.number - 1 := by
  simp only [eventOf?, starts, stops, Complete.event?, Option.bind_eq_bind, Option.bind_eq_some_iff,
    Option.some.injEq, exists_eq_left', if_true, Option.map_eq_some_iff] at gives
  obtain ⟨summary, -, last, before, rfl⟩ := gives
  exact ⟨rfl, last, rfl, Date.addDays?_eq_some.mp before⟩

end Feed

namespace Schedule

/-- What the page keeps of a built schedule, of the entries of one rule. -/
theorem entriesOf_of_build {document : Json} {rules : RuleSet} {resolver : Resolver}
    {feed : List FeedEvent} {events : List (Event Text)} {moment : Moment}
    {schedule : CheckedSchedule} (accepted : RuleSet.ofJson document = .ok rules)
    (resolved : resolver.resolve rules.rules feed = .ok events)
    (built : build rules.window rules.priorityOrder events moment = .ok schedule) (rule : Rule) :
    ∃ page, ofText? schedule.serialize = some page ∧ page.window = rules.window ∧
      (entriesOf rule page.events).Perm
        ((entriesOf rule events).filter (·.isKept rules.window)) := by
  have publishable := isPublishable_of_build (RuleSet.isUsable_of_ofJson accepted) resolved built
  have read : ofText? schedule.serialize = some schedule.kept := by
    rw [ofText?, read_serialize publishable.window]
    exact ofJson?_toJson publishable
  refine ⟨schedule.kept, read, ?_⟩
  obtain ⟨-, generatedAt, -, rfl⟩ := build_eq_ok.mp built
  refine ⟨rfl, ?_⟩
  rw [← entriesOf_filter]
  exact ((List.mergeSort_perm ..).filter _).filter _

/-- An event from one whole day up to another, with the second not included, is active from its
start less the days before until its end plus the days after. If one of these days is none of the
calendar, the page does not have the event at all. -/
theorem isActive_of_wholeDays {document : Json} {rules : RuleSet} {resolver : Resolver}
    {text : Text} {events : List (Event Text)} {moment : Moment} {schedule : CheckedSchedule}
    {rule : Rule} {pattern : Pattern} {picked : FeedEvent}
    (accepted : RuleSet.ofJson document = .ok rules)
    (resolved : resolver.resolve rules.rules (Feed.events text) = .ok events)
    (built : build rules.window rules.priorityOrder events moment = .ok schedule)
    (known : rule ∈ rules.rules) (calendar : rule.dateRule = .calendar pattern)
    (chosen : resolver.choose? pattern.search (Feed.events text) = .ok (some picked)) :
    (∃ block, IsParsedFrom text block picked) ∧
    ∀ (block : List Text) (start stop : Date), IsParsedFrom text block picked →
      lastOf? (dayOf? "DTSTART") block = some ⟨start, true⟩ →
      lastOf? (dayOf? "DTEND") block = some ⟨stop, true⟩ →
      ∃ page, ofText? schedule.serialize = some page ∧
        (IsNumber (start.number - rules.window.daysBefore) ∧
            IsNumber (stop.number - 1 + rules.window.daysAfter) →
          ∃ entry, entriesOf rule page.events = [entry] ∧ ∀ today : Date,
            Theme.isActive page.window entry today =
              .ok (decide (start.number - rules.window.daysBefore ≤ today.number ∧
                (today.number : Int) < stop.number + rules.window.daysAfter))) ∧
        (¬ (IsNumber (start.number - rules.window.daysBefore) ∧
            IsNumber (stop.number - 1 + rules.window.daysAfter)) →
          entriesOf rule page.events = []) := by
  refine ⟨mem_events.mp (mem_of_choose? chosen), ?_⟩
  intro block start stop parsed starts stops
  obtain ⟨rfl, last, isLast, before⟩ := days_of_eventOf? parsed.gives starts stops
  obtain ⟨page, read, sameWindow, same⟩ := entriesOf_of_build accepted resolved built rule
  have only := entriesOf_of_choose? (RuleSet.nodup_ids_of_ofJson accepted) resolved known calendar
    chosen
  have isKept : (resolvedEvent rule picked.start last).isKept rules.window = true ↔ _ :=
    Event.isKept_iff rfl rfl
  rw [only, isLast, Option.getD_some] at same
  rw [← before, ← isKept]
  refine ⟨page, read, fun inCalendar => ?_, fun outside => ?_⟩
  · rw [List.filter_cons_of_pos inCalendar, List.filter_nil] at same
    refine ⟨_, List.perm_singleton.mp same, fun today => ?_⟩
    have covers : Theme.Covers rules.window picked.start last today ↔
        picked.start.number - rules.window.daysBefore ≤ today.number ∧
          (today.number : Int) < stop.number + rules.window.daysAfter := by
      rw [Theme.Covers, ← isKept, and_iff_right inCalendar]
      omega
    rw [sameWindow, Theme.isActive_eq rfl rfl, decide_eq_decide.mpr covers]
  · rw [List.filter_cons_of_neg outside, List.filter_nil] at same
    exact List.perm_nil.mp same

section Easter

/-- A document with one rule, for any event of the feed that has a summary. -/
def feastDocument : Json :=
  .object [
    ("window", .object [("daysBefore", .integer 5), ("daysAfter", .integer 2)]),
    ("priorityOrder", .array [.text "religious_major"]),
    ("events", .array [.object [
      ("id", .text "feast"), ("name", .text "Feast"), ("importance", .text "religious_major"),
      ("themeId", .text "lilies"),
      ("dateRule", .object [("type", .text "calendar"), ("calendarMatch", .text ".")])]])]

def feastPattern : Pattern := ⟨".", .seq (.char .notLineFeed) .empty, 1⟩

def feastRule : Rule :=
  { id := "feast", name := "Feast", importance := "religious_major", themeId := "lilies"
    dateRule := .calendar feastPattern }

def feastRules : RuleSet := ⟨⟨5, 2⟩, ["religious_major"], [feastRule]⟩

/-- The lines of an event that lasts for the last day of March. -/
def easterBlock : List Text :=
  ["SUMMARY:Easter Sunday", "DTSTART;VALUE=DATE:20240331",
    "DTEND;VALUE=DATE:20240401"]

def easterFeed : Text :=
  "BEGIN:VEVENT\nSUMMARY:Easter Sunday\nDTSTART;VALUE=DATE:20240331\n" ++
    "DTEND;VALUE=DATE:20240401\nEND:VEVENT\n"

def easterEvent : FeedEvent :=
  { summary := some "Easter Sunday", start := ⟨2024, 3, 31, by decide⟩
    stop := some ⟨2024, 3, 31, by decide⟩, startsWholeDay := true, endsWholeDay := true }

def february : Resolver := ⟨⟨2024, 2, 1, by decide⟩, ⟨2025, 8, 1, by decide⟩⟩

def februaryMorning : Moment := ⟨february.today, ⟨8, 0, 0, 0⟩, some 0⟩

theorem ofJson_feastDocument : RuleSet.ofJson feastDocument = .ok feastRules := by rfl

/-- The page shows Easter Sunday from 26 March to 2 April. -/
theorem isActive_of_wholeDays_easter : ∃ events schedule page entry,
    february.resolve feastRules.rules (Feed.events easterFeed) = .ok events ∧
      build feastRules.window feastRules.priorityOrder events februaryMorning = .ok schedule ∧
      ofText? schedule.serialize = some page ∧ entriesOf feastRule page.events = [entry] ∧
      ∀ today : Date, Theme.isActive page.window entry today =
        .ok (decide (738971 ≤ today.number ∧ today.number < 738979)) := by
  obtain ⟨events, resolved⟩ : ∃ events,
      february.resolve feastRules.rules (Feed.events easterFeed) = .ok events :=
    exists_of_isSome_toOption (by decide +kernel)
  obtain ⟨generatedAt, hasTimestamp⟩ : ∃ generatedAt,
      februaryMorning.timestamp = .ok generatedAt := exists_of_isSome_toOption (by decide +kernel)
  have publishable := isPublishable_of_resolve (RuleSet.isUsable_of_ofJson ofJson_feastDocument)
    resolved
  have valid : validate (Event.sortByStart events) = .ok () :=
    validate_of_isPublishable fun event member => publishable event (List.mem_mergeSort.mp member)
  have built : build feastRules.window feastRules.priorityOrder events februaryMorning = .ok _ :=
    build_eq_ok.mpr ⟨valid, generatedAt, hasTimestamp, rfl⟩
  have chosen : february.choose? feastPattern.search (Feed.events easterFeed) =
      .ok (some easterEvent) := by decide +kernel
  have parsed : IsParsedFrom easterFeed easterBlock easterEvent :=
    ⟨⟨by decide +kernel, by decide +kernel, by decide +kernel⟩, by decide +kernel⟩
  obtain ⟨page, read, shown, -⟩ := (isActive_of_wholeDays ofJson_feastDocument resolved built
    (List.mem_singleton.mpr rfl) rfl chosen).2 easterBlock ⟨2024, 3, 31, by decide⟩
    ⟨2024, 4, 1, by decide⟩ parsed (by decide +kernel) (by decide +kernel)
  obtain ⟨entry, only, active⟩ := shown (by decide)
  refine ⟨events, _, page, entry, resolved, built, read, only, fun today => ?_⟩
  have start : (⟨2024, 3, 31, by decide⟩ : Date).number = 738976 := by decide +kernel
  have stop : (⟨2024, 4, 1, by decide⟩ : Date).number = 738977 := by decide +kernel
  have before : feastRules.window.daysBefore = 5 := rfl
  have after : feastRules.window.daysAfter = 2 := rfl
  rw [active today, start, stop, before, after, Except.ok.injEq, decide_eq_decide]
  omega

end Easter

end Schedule

end Observance

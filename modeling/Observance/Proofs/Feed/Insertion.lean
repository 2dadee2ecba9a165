import Observance.Proofs.Feed.Writing

/-! # Components inside events

A feed may have other components within an event, such as alarms, with properties of their own. What
a component that is put between two lines of an event changes is at most that event: the lines of
the component count as lines of the event. So nothing changes if each property that the component
gives is given again by a later line of the event, and an alarm with a summary at the end of an
event renames it.
-/

namespace Observance.Feed

section Cuts

/-- Each line feed ends a line, the last one whatever comes after it. -/
theorem exists_splitLines_append (before : Text) :
    ∃ line lines, lines.length = before.count (.char '\n') ∧
      ∀ rest, splitLines (before ++ .char '\n' :: rest) = line :: lines ++ splitLines rest := by
  induction before with
  | nil => exact ⟨[], [], rfl, fun _ => rfl⟩
  | cons c before ih =>
    obtain ⟨line, lines, length, split⟩ := ih
    by_cases isFeed : c = '\n'
    · subst isFeed
      refine ⟨[], line :: lines, ?_, fun rest => congrArg ([] :: ·) (split rest)⟩
      rw [List.count_cons_self, List.length_cons, length]
    · rw [List.count_cons_of_ne isFeed]
      by_cases isReturn : c = '\r' ∧ (before ++ [CodePoint.char '\n']).head? = some (.char '\n')
      · -- A return before a line feed belongs to the same line end.
        obtain ⟨rfl, isNext⟩ := isReturn
        refine ⟨line, lines, length, fun rest => ?_⟩
        rw [← split rest]
        cases before with
        | nil => rfl
        | cons d before =>
          cases Option.some.inj isNext
          rfl
      · refine ⟨c :: line, lines, length, fun rest => ?_⟩
        rw [List.cons_append, splitLines, split rest]
        · rfl
        · intro later returned next
          refine isReturn ⟨returned, ?_⟩
          cases before with
          | nil => rfl
          | cons d before => exact congrArg some (List.cons.inj next).1
        · exact isFeed

/-- Lines are joined without regard to later ones that do not continue them. -/
theorem joinLines_append (lines : List Text) {later : List Text}
    (begins : (joinLines later).1 = []) :
    joinLines (lines ++ later) =
      ((joinLines lines).1, (joinLines lines).2 ++ (joinLines later).2) := by
  induction lines with
  | nil => exact Prod.ext begins rfl
  | cons line lines ih =>
    simp only [List.cons_append, joinLines, ih]
    split <;> rfl

/-- Only its first character makes a line a continuation. -/
theorem isContinuation_cons (c : CodePoint) (text : Text) :
    isContinuation (c :: text) = (c == ' ' || c == '\t') := by
  unfold isContinuation
  split
  next first => simp [(List.cons.inj first).1]
  next first => simp [(List.cons.inj first).1]
  next notSpace notTab =>
    have unspaced : c ≠ ' ' := fun isSpace => notSpace text (isSpace ▸ rfl)
    have untabbed : c ≠ '\t' := fun isTab => notTab text (isTab ▸ rfl)
    simp [unspaced, untabbed]

/-- A text that does not begin with a blank continues no line. -/
theorem joinLines_splitLines_fst {text : Text} (begins : isContinuation text = false) :
    (joinLines (splitLines text)).1 = [] := by
  fun_cases splitLines text with
  | case1 => rfl
  | case2 => rfl
  | case3 => rfl
  | case4 c text =>
    rw [isContinuation_cons] at begins
    simp [joinLines, isContinuation_cons, begins]
  | case5 c text =>
    rw [isContinuation_cons] at begins
    simp [joinLines, isContinuation_cons, begins]

/-- The logical lines up to a line feed do not depend on what comes after it, unless that continues
them. -/
theorem exists_unfoldLines_append (before : Text) :
    ∃ lines, ∀ rest, (joinLines (splitLines rest)).1 = [] →
      unfoldLines (before ++ .char '\n' :: rest) = lines ++ unfoldLines rest := by
  obtain ⟨line, lines, -, split⟩ := exists_splitLines_append before
  refine ⟨(joinLines (line :: lines)).2, fun rest begins => ?_⟩
  rw [unfoldLines, split, joinLines_append _ begins, unfoldLines]

/-- The logical lines of lines that were folded and of a text that continues none of them. -/
theorem unfold_texts_append (lines : List FoldedLine) {rest : Text}
    (begins : (joinLines (splitLines rest)).1 = []) :
    (joinLines (splitLines (lines.flatMap FoldedLine.text ++ rest))).1 = [] ∧
      unfoldLines (lines.flatMap FoldedLine.text ++ rest) =
        lines.map FoldedLine.content ++ unfoldLines rest := by
  induction lines with
  | nil => exact ⟨begins, rfl⟩
  | cons line lines ih =>
    obtain ⟨none, joined⟩ := ih
    rw [unfoldLines] at joined
    rw [List.flatMap_cons, List.append_assoc, unfoldLines, joinLines_splitLines_text, none, joined,
      List.append_nil]
    exact ⟨rfl, rfl⟩

end Cuts

section Components

variable {lines above inserted below : List Text} {α : Type}

def beginLine (kind : Text) : Text := "BEGIN:" ++ kind

def endLine (kind : Text) : Text := "END:" ++ kind

theorem opening_eq : opening = beginLine "VEVENT" := by decide

theorem closing_eq : closing = endLine "VEVENT" := by decide

theorem beginLine_ne_endLine (kind other : Text) : beginLine kind ≠ endLine other :=
  fun same => absurd (List.cons.inj same).1 (by decide)

/-- Whether lines are those of a component that is no event: one that begins it, any others, and one
that ends it. No event begins or ends among them. -/
inductive IsForeign : List Text → Prop
  | intro {kind : Text} {inner : List Text} (foreign : kind ≠ "VEVENT")
      (unopened : opening ∉ inner) (unclosed : closing ∉ inner) :
      IsForeign (beginLine kind :: (inner ++ [endLine kind]))

theorem IsForeign.not_marker (isForeign : IsForeign lines) : opening ∉ lines ∧ closing ∉ lines := by
  obtain ⟨foreign, unopened, unclosed⟩ := isForeign
  rename_i kind inner
  have begins : opening ≠ beginLine kind := by
    rw [opening_eq]
    exact fun same => foreign (List.append_cancel_left same).symm
  have ends : closing ≠ endLine kind := by
    rw [closing_eq]
    exact fun same => foreign (List.append_cancel_left same).symm
  have notBegins : closing ≠ beginLine kind := closing_eq ▸ (beginLine_ne_endLine kind _).symm
  have notEnds : opening ≠ endLine kind := opening_eq ▸ beginLine_ne_endLine _ kind
  simp [unopened, unclosed, begins, ends, notBegins, notEnds]

/-- What a block says of a property is what the later of two parts says of it, if that says
anything. -/
theorem lastOf?_append (given? : Text → Option α) :
    lastOf? given? (above ++ below) = (lastOf? given? below).or (lastOf? given? above) := by
  simp [lastOf?, List.findSome?_append]

/-- Whether lines put into a block change nothing of what it says of a property: what comes below
them gives it again, or they give nothing else than what comes above them. -/
def IsSilent (given? : Text → Option α) (above inserted below : List Text) : Prop :=
  lastOf? given? below = none →
    lastOf? given? inserted = none ∨ lastOf? given? inserted = lastOf? given? above

instance [DecidableEq α] (given? : Text → Option α) (above inserted below : List Text) :
    Decidable (IsSilent given? above inserted below) := by
  unfold IsSilent
  infer_instance

theorem lastOf?_inserted {given? : Text → Option α} :
    lastOf? given? (above ++ (inserted ++ below)) = lastOf? given? (above ++ below) ↔
      IsSilent given? above inserted below := by
  simp only [lastOf?_append, IsSilent]
  cases lastOf? given? below with
  | some value => simp
  | none => cases lastOf? given? inserted <;> simp

/-- A block gives the same event as before if lines put into it say nothing new of its properties.
-/
theorem eventOf?_inserted (summaries : IsSilent summaryOf? above inserted below)
    (starts : IsSilent (dayOf? "DTSTART") above inserted below)
    (stops : IsSilent (dayOf? "DTEND") above inserted below) :
    eventOf? (above ++ (inserted ++ below)) = eventOf? (above ++ below) := by
  rw [eventOf?, lastOf?_inserted.mpr summaries, lastOf?_inserted.mpr starts,
    lastOf?_inserted.mpr stops, eventOf?]

end Components

section Scans

variable {lines : List Text}

/-- A scan begins anew at an opening line. -/
theorem scan_append_opening (current : Option Draft) (earlier lines : List Text) :
    scan current (earlier ++ opening :: lines) = scan current earlier ++ scan (some {}) lines := by
  rw [scan_append, scan, if_pos rfl]

/-- What comes after some lines of an event completes it and goes on with other events. -/
theorem exists_events_of_closes {below : List Text} (closes : Closes lines below) :
    ∃ later, ∀ block : List Text,
      (scan (some (block.foldl Draft.addLine {})) lines).filterMap Complete.event? =
        (eventOf? (block ++ below)).toList ++ later := by
  refine ⟨(scan none lines).filterMap Complete.event?, fun block => ?_⟩
  rw [filterMap_scan_of_closes closes, ← List.foldl_append, complete?_foldl]

end Scans

section Insertions

variable {before after : Text} {above : List Text}

/-- Whether a text that ends with a line feed stops within an event, after the given lines of it.
The line that begins after the line feed is still empty. -/
structure StopsWithin (text : Text) (above : List Text) : Prop where
  opened : opening :: (above ++ [[]]) <:+ unfoldLines text
  unopened : opening ∉ above
  unclosed : closing ∉ above

def textWith (before : Text) (component : List FoldedLine) (after : Text) : Text :=
  (before ++ .char '\n' :: (component.flatMap FoldedLine.text ++ after))

/-- Lines that are put between two lines of an event are added to it; the events that came before
remain. -/
theorem StopsWithin.exists_events (within : StopsWithin (before ++ [.char '\n']) above)
    (begins : isContinuation after = false) :
    ∃ earlier, ∀ component : List FoldedLine, opening ∉ component.map FoldedLine.content →
      closing ∉ component.map FoldedLine.content →
      events (textWith before component after) = earlier ++
        (scan (some ((above ++ component.map FoldedLine.content).foldl Draft.addLine {}))
          (unfoldLines after)).filterMap Complete.event? := by
  obtain ⟨⟨lines, opened⟩, unopened, unclosed⟩ := within
  obtain ⟨complete, unfolded⟩ := exists_unfoldLines_append before
  have same : complete ++ [[]] = lines ++ opening :: above ++ [[]] := by
    rw [List.append_assoc, List.cons_append, opened]
    exact (unfolded [] rfl).symm
  obtain rfl := List.append_cancel_right same
  refine ⟨(scan none lines).filterMap Complete.event?, fun component noOpening noClosing => ?_⟩
  obtain ⟨continues, added⟩ := unfold_texts_append component (joinLines_splitLines_fst begins)
  rw [events, completes, textWith, unfolded _ continues, added,
    List.append_assoc, List.cons_append, scan_append_opening, scan_some_append unopened unclosed,
    scan_some_append noOpening noClosing, ← List.foldl_append, List.filterMap_append]

/-- A component that is no event, put between two lines of an event, changes nothing exactly if the
event is not closed or the lines of the component, taken as lines of the event, do not change what
it gives. That is the case if they say nothing new of its summary, its start and its end. -/
theorem events_textWith_iff {component : List FoldedLine}
    (within : StopsWithin (before ++ [.char '\n']) above) (begins : isContinuation after = false)
    (isForeign : IsForeign (component.map FoldedLine.content)) :
    (events (textWith before component after) = events (textWith before [] after) ↔
      ∀ below, Closes (unfoldLines after) below →
        eventOf? (above ++ (component.map FoldedLine.content ++ below)) =
          eventOf? (above ++ below)) ∧
    ((∀ below, Closes (unfoldLines after) below →
        IsSilent summaryOf? above (component.map FoldedLine.content) below ∧
        IsSilent (dayOf? "DTSTART") above (component.map FoldedLine.content) below ∧
        IsSilent (dayOf? "DTEND") above (component.map FoldedLine.content) below) →
      events (textWith before component after) = events (textWith before [] after)) := by
  obtain ⟨earlier, given⟩ := within.exists_events begins
  obtain ⟨unopened, unclosed⟩ := isForeign.not_marker
  have unchanged : events (textWith before component after) = events (textWith before [] after) ↔
      ∀ below, Closes (unfoldLines after) below →
        eventOf? (above ++ (component.map FoldedLine.content ++ below)) =
          eventOf? (above ++ below) := by
    rw [given component unopened unclosed, given [] List.not_mem_nil List.not_mem_nil,
      List.append_cancel_left_eq, List.map_nil, List.append_nil]
    constructor
    · intro same below closes
      obtain ⟨later, gives⟩ := exists_events_of_closes closes
      rw [gives, gives, List.append_cancel_right_eq, List.append_assoc] at same
      simpa using congrArg List.head? same
    · intro same
      -- An event that is not closed gives nothing, whichever lines it has.
      by_cases isClosed : ∃ below, Closes (unfoldLines after) below
      · obtain ⟨below, closes⟩ := isClosed
        obtain ⟨later, gives⟩ := exists_events_of_closes closes
        rw [gives, gives, List.append_assoc, same below closes]
      · rw [scan_of_not_closes (not_exists.mp isClosed),
          scan_of_not_closes (not_exists.mp isClosed)]
  refine ⟨unchanged, fun silent => unchanged.mpr fun below closes => ?_⟩
  obtain ⟨summaries, starts, stops⟩ := silent below closes
  exact eventOf?_inserted summaries starts stops

end Insertions

section Alarm

def alarm : List FoldedLine :=
  [wholeLine "BEGIN:VALARM" (by decide) (by decide),
    wholeLine "SUMMARY:Reminder" (by decide) (by decide),
    wholeLine "END:VALARM" (by decide) (by decide)]

theorem isForeign_alarm : IsForeign (alarm.map FoldedLine.content) :=
  @IsForeign.intro "VALARM" ["SUMMARY:Reminder"] (by decide) (by decide) (by decide)

/-- The alarm does not rename an event whose summary comes after it. -/
theorem events_textWith_iff_later :
    events (textWith "BEGIN:VEVENT\nDTSTART:20250420" alarm
        "SUMMARY:Easter\nEND:VEVENT\n") =
      events (textWith "BEGIN:VEVENT\nDTSTART:20250420" []
        "SUMMARY:Easter\nEND:VEVENT\n") := by
  have within : StopsWithin (("BEGIN:VEVENT\nDTSTART:20250420" : Text) ++ [.char '\n'])
      ["DTSTART:20250420"] :=
    ⟨by decide +kernel, by decide +kernel, by decide +kernel⟩
  have lines : unfoldLines "SUMMARY:Easter\nEND:VEVENT\n" =
      [("SUMMARY:Easter" : Text), closing, []] := by decide +kernel
  refine (events_textWith_iff within (by decide +kernel) isForeign_alarm).2 fun below closes => ?_
  rw [lines] at closes
  obtain ⟨rest, rfl, continued⟩ := (closes_cons (by decide) (by decide)).mp closes
  rw [closes_closing.mp continued]
  exact ⟨by decide +kernel, by decide +kernel, by decide +kernel⟩

/-- Not every component leaves the event unchanged that it is put into: the alarm renames an event
whose summary comes before it. -/
theorem exists_component_counted : ¬ ∀ (before after : Text) (above : List Text)
    (component : List FoldedLine), StopsWithin (before ++ [.char '\n']) above →
    isContinuation after = false → IsForeign (component.map FoldedLine.content) →
    events (textWith before component after) = events (textWith before [] after) := by
  intro ignored
  have same := ignored "BEGIN:VEVENT\nSUMMARY:Easter\nDTSTART:20250420"
    "END:VEVENT\n" ["SUMMARY:Easter", "DTSTART:20250420"] alarm
    ⟨by decide +kernel, by decide +kernel, by decide +kernel⟩ (by decide +kernel) isForeign_alarm
  exact absurd same (by decide +kernel)

end Alarm

end Observance.Feed

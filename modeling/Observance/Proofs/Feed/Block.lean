import Observance.Feed.Event

/-! # Blocks of a feed

A block of a feed is what stands between an opening line and the next closing line. Each event of a
feed is what one of the blocks gives, and every block that gives an event gives one of the feed. Of
each property the last usable line of the block decides, so what a block gives can be said without
a draft that changes from line to line.
-/

namespace Observance.Feed

variable {lines block : List Text} {line : Text}

section Values

def propertyOf? (name : Text) (line : Text) : Option Property :=
  if line.contains ':' ∧ (Property.ofLine line).name = name then some (.ofLine line) else none

def dayOf? (name : Text) (line : Text) : Option Day :=
  (propertyOf? name line).bind Property.day?

def summaryOf? (line : Text) : Option Text :=
  (propertyOf? "SUMMARY" line).map (·.value)

/-- What the last line of a block that gives something gives. -/
def lastOf? {α : Type} (given? : Text → Option α) (block : List Text) : Option α :=
  block.reverse.findSome? given?

def eventOf? (block : List Text) : Option FeedEvent := do
  let start ← lastOf? (dayOf? "DTSTART") block
  let summary ← (lastOf? summaryOf? block).filter (!·.isEmpty)
  Complete.event? ⟨summary, start, lastOf? (dayOf? "DTEND") block⟩

theorem lastOf?_cons {α : Type} (given? : Text → Option α) :
    lastOf? given? (line :: block) = (lastOf? given? block).or (given? line) := by
  simp [lastOf?, List.findSome?_append]

end Values

section Drafts

/-- What one line changes in a draft. -/
theorem addLine_eq (draft : Draft) (line : Text) :
    draft.addLine line =
      ⟨(summaryOf? line).getD draft.summary, (dayOf? "DTSTART" line).or draft.start,
        (dayOf? "DTEND" line).or draft.stop⟩ := by
  unfold Draft.addLine summaryOf? dayOf? propertyOf?
  cases line.contains ':' with
  | false => simp
  | true =>
    simp only [true_and, if_true, Draft.add]
    split
    next isSummary => simp [isSummary]
    · split
      next isStart => simp [isStart]
      · split <;> simp [*]

/-- The last lines of a block decide what a draft says after it. -/
theorem foldl_addLine (draft : Draft) (block : List Text) :
    block.foldl Draft.addLine draft =
      ⟨(lastOf? summaryOf? block).getD draft.summary,
        (lastOf? (dayOf? "DTSTART") block).or draft.start,
        (lastOf? (dayOf? "DTEND") block).or draft.stop⟩ := by
  induction block generalizing draft with
  | nil => rfl
  | cons line block ih =>
    rw [List.foldl_cons, ih, addLine_eq, lastOf?_cons, lastOf?_cons, lastOf?_cons]
    cases lastOf? summaryOf? block <;> simp [Option.or_assoc]

/-- The draft of a block gives its event. -/
theorem complete?_foldl :
    (block.foldl Draft.addLine {}).complete?.bind Complete.event? = eventOf? block := by
  rw [foldl_addLine, eventOf?, Draft.complete?]
  cases lastOf? (dayOf? "DTSTART") block with
  | none => rfl
  | some start =>
    cases lastOf? summaryOf? block with
    | none => rfl
    | some summary => cases summary <;> simp [Option.filter]

end Drafts

section Scans

theorem closing_ne_opening : closing ≠ opening := by decide

/-- The draft that is open after one more line. -/
def draftAfter (current : Option Draft) (line : Text) : Option Draft :=
  if line = opening then some {}
  else if line = closing then none
  else current.map (·.addLine line)

/-- A closing line completes the open draft, and the scan goes on with what is open then. -/
theorem scan_cons (current : Option Draft) (line : Text) (lines : List Text) :
    scan current (line :: lines) =
      (if line = closing then current.bind Draft.complete? else none).toList ++
        scan (draftAfter current line) lines := by
  rw [scan, draftAfter]
  split
  next isOpening =>
    subst isOpening
    rw [if_neg closing_ne_opening.symm]
    rfl
  · split
    · split
      next completed => rw [completed]; rfl
      next missing => rw [missing]; rfl
    · rfl

/-- A scan goes on from what the lines before leave open. -/
theorem scan_append (current : Option Draft) (earlier later : List Text) :
    scan current (earlier ++ later) =
      scan current earlier ++ scan (earlier.foldl draftAfter current) later := by
  induction earlier generalizing current with
  | nil => rfl
  | cons line earlier ih =>
    rw [List.cons_append, scan_cons, scan_cons, ih, List.append_assoc, List.foldl_cons]

/-- Where no line closes an event, none is completed. -/
theorem scan_of_unclosed (unclosed : closing ∉ lines) (current : Option Draft) :
    scan current lines = [] := by
  induction lines generalizing current with
  | nil => rfl
  | cons line lines ih =>
    rw [List.mem_cons, not_or] at unclosed
    rw [scan_cons, if_neg (Ne.symm unclosed.1), ih unclosed.2]
    rfl

/-- Lines that neither open nor close an event are added to the open one. -/
theorem foldl_draftAfter (unopened : opening ∉ block) (unclosed : closing ∉ block)
    (current : Option Draft) :
    block.foldl draftAfter current = current.map (block.foldl Draft.addLine) := by
  induction block generalizing current with
  | nil => exact Option.map_id'.symm
  | cons line block ih =>
    rw [List.mem_cons, not_or] at unopened unclosed
    rw [List.foldl_cons, draftAfter, if_neg (Ne.symm unopened.1), if_neg (Ne.symm unclosed.1),
      ih unopened.2 unclosed.2, Option.map_map]
    rfl

/-- Outside of events, lines are passed over up to the next opening one. -/
theorem scan_none_append (unopened : opening ∉ block) (lines : List Text) :
    scan none (block ++ lines) = scan none lines := by
  induction block with
  | nil => rfl
  | cons line block ih =>
    rw [List.mem_cons, not_or] at unopened
    rw [List.cons_append, scan_cons, draftAfter, if_neg (Ne.symm unopened.1), Option.bind_none,
      Option.map_none, ite_self, ite_self, ih unopened.2]
    rfl

/-- The scan of an event goes on from what its lines add to the draft. -/
theorem scan_some_append (unopened : opening ∉ block) (unclosed : closing ∉ block) (draft : Draft)
    (lines : List Text) :
    scan (some draft) (block ++ lines) = scan (some (block.foldl Draft.addLine draft)) lines := by
  rw [scan_append, scan_of_unclosed unclosed, foldl_draftAfter unopened unclosed]
  rfl

/-- A scan completes an open event at the next closing line. -/
theorem scan_closing (unopened : opening ∉ block) (unclosed : closing ∉ block) (draft : Draft)
    (lines : List Text) :
    scan (some draft) (block ++ closing :: lines) =
      (block.foldl Draft.addLine draft).complete?.toList ++ scan none lines := by
  rw [scan_some_append unopened unclosed, scan_cons, if_pos rfl, draftAfter,
    if_neg closing_ne_opening, if_pos rfl, Option.bind_some]

end Scans

section Blocks

/-- Whether lines go on with a block up to its closing line. -/
def Closes (lines block : List Text) : Prop :=
  block ++ [closing] <+: lines ∧ opening ∉ block ∧ closing ∉ block

/-- Whether a block stands in lines between an opening line and the next closing line. -/
def IsBlock (lines block : List Text) : Prop :=
  opening :: (block ++ [closing]) <:+: lines ∧ opening ∉ block ∧ closing ∉ block

/-- A block either begins at the first line, which then opens it, or later. -/
theorem isBlock_cons :
    IsBlock (line :: lines) block ↔
      (line = opening ∧ Closes lines block) ∨ IsBlock lines block := by
  simp only [IsBlock, Closes, List.infix_cons_iff, List.cons_prefix_cons, or_and_right, and_assoc,
    eq_comm (a := line)]

theorem not_closes_opening : ¬ Closes (opening :: lines) block := by
  rintro ⟨isPrefix, unopened, -⟩
  cases block with
  | nil => exact closing_ne_opening (List.cons_prefix_cons.mp isPrefix).1
  | cons first rest =>
    obtain ⟨rfl, -⟩ := List.cons_prefix_cons.mp isPrefix
    exact unopened (List.mem_cons_self ..)

theorem closes_closing : Closes (closing :: lines) block ↔ block = [] := by
  constructor
  · rintro ⟨isPrefix, -, unclosed⟩
    cases block with
    | nil => rfl
    | cons first rest =>
      obtain ⟨rfl, -⟩ := List.cons_prefix_cons.mp isPrefix
      exact absurd (List.mem_cons_self ..) unclosed
  · rintro rfl
    exact ⟨List.cons_prefix_cons.mpr ⟨rfl, List.nil_prefix⟩, List.not_mem_nil, List.not_mem_nil⟩

theorem closes_cons (unopened : line ≠ opening) (unclosed : line ≠ closing) :
    Closes (line :: lines) block ↔ ∃ rest, block = line :: rest ∧ Closes lines rest := by
  constructor
  · rintro ⟨isPrefix, noOpening, noClosing⟩
    cases block with
    | nil => exact absurd (List.cons_prefix_cons.mp isPrefix).1.symm unclosed
    | cons first rest =>
      obtain ⟨rfl, continued⟩ := List.cons_prefix_cons.mp isPrefix
      rw [List.mem_cons, not_or] at noOpening noClosing
      exact ⟨rest, rfl, continued, noOpening.2, noClosing.2⟩
  · rintro ⟨rest, rfl, isPrefix, noOpening, noClosing⟩
    refine ⟨List.cons_prefix_cons.mpr ⟨rfl, isPrefix⟩, ?_, ?_⟩
    · rw [List.mem_cons, not_or]
      exact ⟨unopened.symm, noOpening⟩
    · rw [List.mem_cons, not_or]
      exact ⟨unclosed.symm, noClosing⟩

/-- What is open is completed by the lines up to the next closing line, and the rest of the scan
does not depend on it. -/
theorem scan_of_closes (closes : Closes lines block) (draft : Draft) :
    scan (some draft) lines =
      (block.foldl Draft.addLine draft).complete?.toList ++ scan none lines := by
  obtain ⟨⟨later, rfl⟩, unopened, unclosed⟩ := closes
  have passed : opening ∉ block ++ [closing] := by
    rw [List.mem_append, List.mem_singleton, not_or]
    exact ⟨unopened, closing_ne_opening.symm⟩
  rw [scan_none_append passed, List.append_assoc, List.singleton_append,
    scan_closing unopened unclosed]

/-- The event of what is open comes before all events of the blocks below. -/
theorem filterMap_scan_of_closes (closes : Closes lines block) (draft : Draft) :
    (scan (some draft) lines).filterMap Complete.event? =
      ((block.foldl Draft.addLine draft).complete?.bind Complete.event?).toList ++
        (scan none lines).filterMap Complete.event? := by
  rw [scan_of_closes closes, List.filterMap_append]
  cases (block.foldl Draft.addLine draft).complete? with
  | none => rfl
  | some complete => cases event : complete.event? <;> simp [event]

/-- A block ends at the first closing line. -/
theorem Closes.eq_takeWhile (closes : Closes lines block) :
    block = lines.takeWhile (· != closing) := by
  obtain ⟨⟨later, rfl⟩, -, unclosed⟩ := closes
  have kept : ∀ line ∈ block, (line != closing) = true := fun line member =>
    bne_iff_ne.mpr fun same => unclosed (same ▸ member)
  rw [List.append_assoc, List.takeWhile_append_of_pos kept]
  simp

/-- An event that is not closed is given up, whatever it says. -/
theorem scan_of_not_closes (unclosed : ∀ block, ¬ Closes lines block) (draft : Draft) :
    scan (some draft) lines = scan none lines := by
  induction lines generalizing draft with
  | nil => rfl
  | cons line lines ih =>
    rw [scan, scan]
    split
    · rfl
    next isNotOpening =>
      split
      next isClosing =>
        subst isClosing
        exact absurd (closes_closing.mpr rfl) (unclosed [])
      next isNotClosing =>
        refine ih (fun block closes => ?_) _
        exact unclosed _ ((closes_cons isNotOpening isNotClosing).mpr ⟨block, rfl, closes⟩)

/-- A scan finds what the open draft is completed to by the lines up to the next closing line, and
what the blocks after that give. -/
theorem mem_scan {current : Option Draft} {complete : Complete} :
    complete ∈ scan current lines ↔
      (∃ block, Closes lines block ∧
        (current.map (block.foldl Draft.addLine)).bind Draft.complete? = some complete) ∨
      ∃ block, IsBlock lines block ∧
        (block.foldl Draft.addLine {}).complete? = some complete := by
  -- The draft is general, for it grows with each line and is given up at an opening line.
  induction lines generalizing current with
  | nil => simp [scan, Closes, IsBlock]
  | cons line lines ih =>
    simp only [isBlock_cons, or_and_right, exists_or, scan]
    split
    next isOpening =>
      subst isOpening
      simp [ih, not_closes_opening]
    next isNotOpening =>
      split
      next isClosing =>
        subst isClosing
        simp only [closes_closing, closing_ne_opening, exists_eq_left, false_and, exists_false,
          false_or, List.foldl_nil, Option.map_id']
        split
        next found completed => simp [ih, completed, eq_comm (a := found)]
        next missing => simp [ih, missing]
      next isNotClosing =>
        simp only [ih, closes_cons isNotOpening isNotClosing, isNotOpening, false_and, exists_false,
          false_or]
        refine or_congr_left ?_
        constructor
        · rintro ⟨rest, closes, completed⟩
          refine ⟨line :: rest, ⟨rest, rfl, closes⟩, ?_⟩
          rw [← completed, Option.map_map]
          rfl
        · rintro ⟨_, ⟨rest, rfl, closes⟩, completed⟩
          refine ⟨rest, closes, ?_⟩
          rw [← completed, Option.map_map]
          rfl

/-- Whether an event is what a block of a text gives. -/
structure IsParsedFrom (text : Text) (block : List Text) (event : FeedEvent) : Prop where
  isBlock : IsBlock (unfoldLines text) block
  gives : eventOf? block = some event

/-- The events of a text are those that its blocks give. -/
theorem mem_events {text : Text} {event : FeedEvent} :
    event ∈ events text ↔ ∃ block, IsParsedFrom text block event := by
  simp only [events, completes, List.mem_filterMap, mem_scan, Option.map_none, Option.bind_none,
    reduceCtorEq, and_false, exists_false, false_or]
  constructor
  · rintro ⟨complete, ⟨block, isBlock, completed⟩, gives⟩
    refine ⟨block, isBlock, ?_⟩
    rw [← complete?_foldl, completed, Option.bind_some, gives]
  · rintro ⟨block, isBlock, gives⟩
    rw [← complete?_foldl, Option.bind_eq_some_iff] at gives
    obtain ⟨complete, completed, gives⟩ := gives
    exact ⟨complete, ⟨block, isBlock, completed⟩, gives⟩

end Blocks

end Observance.Feed

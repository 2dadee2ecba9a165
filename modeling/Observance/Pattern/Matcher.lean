import Observance.Pattern.CharTest

/-! # Matching

A pattern is matched by trying its choices in order and going back to the next choice when the rest
fails. The rest is a function from the spot reached to an outcome, so every construct only says
which spots it offers and in which order.

Besides the spot, a search has a memory: the marks where groups begin and end, and a cursor, the
spot that it last turned to. A failure hands its memory on. A choice puts back as much of it as is
said at the choice; a possessive repetition goes on from the cursor, wherever the round that failed
has left it.
-/

namespace Observance.Pattern

/-- A zero-width test with its flags applied. -/
inductive SpotTest where
  | textStart
  | lineStart
  | textEnd
  /-- The end of the text, or a line feed that ends it. -/
  | lastLineEnd
  | lineEnd
  | wordEdge (ascii negated : Bool)
deriving Repr, DecidableEq, Inhabited

/-- A spot in a text: what lies before it, nearest first, what lies after it, and how far in it
is. -/
structure Spot where
  before : List Nat
  after : List Nat
  offset : Nat
deriving Repr, Inhabited

namespace Spot

def start (codes : List Nat) : Spot := ⟨[], codes, 0⟩

def forward (spot : Spot) : Option (Nat × Spot) :=
  match spot.after with
  | [] => none
  | code :: rest => some (code, ⟨code :: spot.before, rest, spot.offset + 1⟩)

/-- The spot a number of characters back, if there are that many. -/
def back : Nat → Spot → Option Spot
  | 0, spot => some spot
  | count + 1, spot =>
    match spot.before with
    | [] => none
    | code :: rest => back count ⟨rest, code :: spot.after, spot.offset - 1⟩

end Spot

/-- Whether a zero-width test holds at a spot. No spot of the empty text is an edge of a word, and
none is free of edges either. -/
def SpotTest.holds : SpotTest → Spot → Bool
  | .textStart, spot => spot.before.isEmpty
  | .lineStart, spot => spot.before.isEmpty || spot.before.head? == some 10
  | .textEnd, spot => spot.after.isEmpty
  | .lastLineEnd, spot => spot.after.isEmpty || spot.after == [10]
  | .lineEnd, spot => spot.after.isEmpty || spot.after.head? == some 10
  | .wordEdge ascii negated, spot =>
    if spot.before.isEmpty && spot.after.isEmpty then false
    else
      let isWord := (Option.any (Category.word.holds ascii ·))
      (isWord spot.before.head? != isWord spot.after.head?) != negated

/-- What a search keeps in mind: the cursor, and where groups begin and end. The marks end with the
last one that counts. -/
structure Memory where
  cursor : Spot
  marks : Array (Option Nat)
deriving Repr, Inhabited

namespace Memory

def atSpot (memory : Memory) (spot : Spot) : Memory := { memory with cursor := spot }

/-- Records that a group begins or ends at an offset. Marks that are passed over are unset. -/
def mark (memory : Memory) (index offset : Nat) : Memory :=
  let marks := memory.marks ++ Array.replicate (index + 1 - memory.marks.size) none
  { memory with marks := marks.setIfInBounds index (some offset) }

/-- Where a group begins and ends, if it has matched. -/
def group? (memory : Memory) (index : Nat) : Option (Nat × Nat) := do
  let start ← (← memory.marks[2 * index]?)
  let stop ← (← memory.marks[2 * index + 1]?)
  if start ≤ stop then some (start, stop) else none

/-- Puts earlier marks back: all of them, or only how many of them count. -/
def restore (all : Bool) (earlier : Array (Option Nat)) (memory : Memory) : Memory :=
  { memory with marks := if all then earlier else memory.marks.extract 0 earlier.size }

/-- Whether a group ends before it begins, which marks that are only half put back can lead to. -/
def isTorn (memory : Memory) : Bool :=
  (List.range (memory.marks.size / 2)).any fun index =>
    match memory.marks[2 * index]?, memory.marks[2 * index + 1]? with
    | some (some start), some (some stop) => stop < start
    | _, _ => false

end Memory

/-- A pattern ready for matching. -/
inductive Node where
  | empty
  | fail
  | char (test : CharTest)
  | edge (kind : SpotTest)
  | seq (first second : Node)
  /-- An alternative before others. If `lead` is given, the alternative is tried only where the next
  character passes it. -/
  | choice (lead : Option CharTest) (first others : Node)
  | capture (index : Nat) (body : Node)
  | backreference (folding : Folding) (index : Nat)
  /-- A repetition of one-character tests. If the code of the character that must follow is known,
  spots where it does not follow are left out. -/
  | run (mode : RepeatMode) (least : Nat) (most : Option Nat) (test : CharTest)
    (next : Option Nat)
  | repeated (mode : RepeatMode) (least : Nat) (most : Option Nat) (body : Node)
  | look (behind : Nat) (negative : Bool) (body : Node)
  | atomic (body : Node)
  | conditional (index : Nat) (whenSet whenUnset : Node)
deriving Repr, Inhabited

/-- What comes of an attempt, with the memory it leaves. -/
inductive Outcome where
  | found (memory : Memory)
  | failed (memory : Memory)
deriving Repr, Inhabited

/-- An outcome, or what another attempt makes of the memory that a failure leaves. -/
def Outcome.orElse (outcome : Outcome) (next : Memory → Outcome) : Outcome :=
  match outcome with
  | .found memory => .found memory
  | .failed memory => next memory

/-- An outcome after which, if it is a failure, the cursor is at a spot. -/
def Outcome.orFailAt (outcome : Outcome) (spot : Spot) : Outcome :=
  outcome.orElse fun memory => .failed (memory.atSpot spot)

abbrev Rest := Spot → Memory → Outcome

abbrev Matching := Spot → Memory → Rest → Outcome

def complete : Rest := fun spot memory => .found (memory.atSpot spot)

/-- The rest of a match, tried from the spot where the cursor is put. -/
def turnTo (rest : Rest) : Rest := fun spot memory =>
  (rest spot (memory.atSpot spot)).orFailAt spot

def requiredRounds (once : Matching) (rest : Rest) : Nat → Rest
  | 0, spot, memory => rest spot memory
  | count + 1, spot, memory =>
    (once spot (memory.atSpot spot) (requiredRounds once rest count)).orFailAt spot

/-- As many further rounds as possible first, up to `limit`. A round that ends where it began is the
last. -/
def greedyRounds (once : Matching) (rest : Rest) :
    (limit : Nat) → (left : Option Nat) → (begun : Option Nat) → Rest
  | 0, _, _, spot, memory => turnTo rest spot memory
  | limit + 1, left, begun, spot, memory =>
    if left = some 0 ∨ begun = some spot.offset then turnTo rest spot memory
    else
      (once spot (memory.atSpot spot)
        (greedyRounds once rest limit (left.map (· - 1)) (some spot.offset))).orElse fun after =>
          turnTo rest spot (after.restore true memory.marks)

/-- As few further rounds as possible first, up to `limit`. A round that ends where it began is the
last. -/
def lazyRounds (once : Matching) (keeps : Bool) (rest : Rest) :
    (limit : Nat) → (left : Option Nat) → (begun : Option Nat) → Rest
  | 0, _, _, spot, memory => turnTo rest spot memory
  | limit + 1, left, begun, spot, memory =>
    (turnTo rest spot memory).orElse fun after =>
      let restored := after.restore keeps memory.marks
      if left = some 0 ∨ begun = some spot.offset then .failed restored
      else
        (once spot restored
          (lazyRounds once keeps rest limit (left.map (· - 1)) (some spot.offset))).orFailAt spot

/-- A fixed number of rounds from the cursor on, each matched for good before the next. -/
def firmRounds (once : Matching) : Nat → Memory → Outcome
  | 0, memory => .found memory
  | count + 1, memory =>
    match once memory.cursor memory complete with
    | .found reached => firmRounds once count reached
    | .failed after => .failed after

/-- As many further rounds from the cursor on as possible, up to `limit`, each matched for good
before the next. The cursor stays where the round that fails has left it. -/
def possessiveRounds (once : Matching) :
    (limit : Nat) → (left : Option Nat) → (begun : Option Nat) → Memory → Memory
  | 0, _, _, memory => memory
  | limit + 1, left, begun, memory =>
    if left = some 0 ∨ begun = some memory.cursor.offset then memory
    else match once memory.cursor memory complete with
      | .found reached =>
        possessiveRounds once limit (left.map (· - 1)) (some memory.cursor.offset) reached
      | .failed after => after.restore true memory.marks

/-- A repetition, by its mode. `keeps` says whether a choice here puts all marks back. -/
def repeatRounds (limit : Nat) (keeps : Bool) (mode : RepeatMode) (least : Nat) (most : Option Nat)
    (once : Bool → Matching) : Matching := fun spot memory rest =>
  let left := most.map (· - least)
  match mode with
  | .greedy => requiredRounds (once true) (greedyRounds (once true) rest limit left none) least spot
      memory
  | .lazy => requiredRounds (once true) (lazyRounds (once true) keeps rest limit left none) least
      spot memory
  | .possessive =>
    match firmRounds (once keeps) least (memory.atSpot spot) with
    | .failed after => .failed (after.atSpot spot)
    | .found reached =>
      let final := possessiveRounds (once keeps) limit left none reached
      rest final.cursor final

/-- The spots beyond a spot that up to `left` characters which pass a test lead to, furthest first,
in front of those already passed. -/
def spotsAhead (test : CharTest) :
    (passed : List Spot) → (left : Option Nat) → (before after : List Nat) → (offset : Nat) →
      List Spot
  | passed, _, _, [], _ => passed
  | passed, left, before, code :: rest, offset =>
    if left ≠ some 0 ∧ test.holds code then
      spotsAhead test (⟨code :: before, rest, offset + 1⟩ :: passed) (left.map (· - 1))
        (code :: before) rest (offset + 1)
    else passed

/-- The memory after counting the characters that pass a test: a test that goes step by step leaves
the cursor at the last of the spots passed. -/
def afterCounting (test : CharTest) (spot : Spot) (passed : List Spot) (memory : Memory) : Memory :=
  memory.atSpot (if test.isStepwise then passed.headD spot else spot)

def tryEach (keeps : Bool) (next : Option Nat) (rest : Rest) : List Spot → Memory → Outcome
  | [], memory => .failed memory
  | spot :: spots, memory =>
    if next.any fun code => spot.after.head? != some code then
      tryEach keeps next rest spots memory
    else
      (rest spot (memory.atSpot spot)).orElse fun after =>
        tryEach keeps next rest spots (after.restore keeps memory.marks)

/-- The rest from a spot, or from the nearest of the spots that up to `left` characters which pass
a test lead to. -/
def tryNearest (keeps : Bool) (test : CharTest) (rest : Rest) :
    (left : Option Nat) → (before after : List Nat) → (offset : Nat) → Memory → Outcome
  | _, before, [], offset, memory =>
    let spot : Spot := ⟨before, [], offset⟩
    (rest spot (memory.atSpot spot)).orElse fun after =>
      .failed ((after.restore keeps memory.marks).atSpot spot)
  | left, before, code :: others, offset, memory =>
    let spot : Spot := ⟨before, code :: others, offset⟩
    (rest spot (memory.atSpot spot)).orElse fun after =>
      let restored := (after.restore keeps memory.marks).atSpot spot
      if test.holds code then
        let reached : Spot := ⟨code :: before, others, offset + 1⟩
        let moved := afterCounting test spot [reached] restored
        if left = some 0 then .failed moved
        else tryNearest keeps test rest (left.map (· - 1)) (code :: before) others (offset + 1)
          moved
      else .failed restored

/-- A repetition of one-character tests, by its mode, in a text of a given size. -/
def runRounds (size : Nat) (keeps : Bool) (mode : RepeatMode) (least : Nat) (most : Option Nat)
    (test : CharTest) (next : Option Nat) : Matching := fun spot memory rest =>
  if size - spot.offset < least then .failed memory
  else
    let count (most : Option Nat) := spotsAhead test [] most spot.before spot.after spot.offset
    match mode with
    | .greedy =>
      let passed := count most
      let counted := afterCounting test spot passed memory
      tryEach keeps next rest ((passed ++ [spot]).take (passed.length + 1 - least)) counted
    | .lazy =>
      let passed := count (some least)
      let counted := afterCounting test spot passed memory
      if passed.length < least then .failed counted
      else
        let start := passed.headD spot
        tryNearest keeps test rest (most.map (· - least)) start.before start.after start.offset
          counted
    | .possessive =>
      let passed := count most
      let counted := afterCounting test spot passed memory
      if passed.length < least then .failed counted else rest (passed.headD spot) counted

def matchForms (folding : Folding) : List Nat → Spot → Option Spot
  | [], spot => some spot
  | form :: forms, spot =>
    match spot.forward with
    | some (code, reached) =>
      if folding.apply code == form then matchForms folding forms reached else none
    | none => none

/-- A text that is searched. -/
structure Subject where
  codes : List Nat
  size : Nat
deriving Repr, Inhabited

namespace Subject

def ofText (text : Text) : Subject :=
  let codes := text.map CodePoint.toNat
  ⟨codes, codes.length⟩

/-- How many rounds a repetition may need: a round that does not advance is the last. -/
def roundLimit (subject : Subject) : Nat := 2 * subject.size + 4

/-- The characters that a group holds, in the form in which they are compared. -/
def forms (subject : Subject) (folding : Folding) (start stop : Nat) : List Nat :=
  ((subject.codes.drop start).take (stop - start)).map folding.apply

end Subject

/-- Matches a node in a text. `keeps` says whether a choice puts all marks back when an alternative
fails: it does inside a repetition, unless that is possessive. -/
def Node.match (subject : Subject) : Node → (keeps : Bool) → Matching
  | .empty, _, spot, memory, rest => rest spot memory
  | .fail, _, _, memory, _ => .failed memory
  | .char test, _, spot, memory, rest =>
    match spot.forward with
    | some (code, reached) => if test.holds code then rest reached memory else .failed memory
    | none => .failed memory
  | .edge kind, _, spot, memory, rest =>
    if kind.holds spot then rest spot memory else .failed memory
  | .seq first second, keeps, spot, memory, rest =>
    first.match subject keeps spot memory fun reached after =>
      second.match subject keeps reached after rest
  | .choice lead first others, keeps, spot, memory, rest =>
    let isOpen := lead.all fun test => spot.after.head?.any test.holds
    let tried := if isOpen then first.match subject keeps spot (memory.atSpot spot) rest
      else .failed memory
    tried.orElse fun after =>
      others.match subject keeps spot (after.restore keeps memory.marks) rest
  | .capture index body, keeps, spot, memory, rest =>
    body.match subject keeps spot (memory.mark (2 * index) spot.offset) fun reached after =>
      rest reached (after.mark (2 * index + 1) reached.offset)
  | .backreference folding index, _, spot, memory, rest =>
    match (memory.group? index).bind fun (start, stop) =>
        matchForms folding (subject.forms folding start stop) spot with
    | some reached => rest reached memory
    | none => .failed memory
  | .run mode least most test next, keeps, spot, memory, rest =>
    runRounds subject.size keeps mode least most test next spot memory rest
  | .repeated mode least most body, keeps, spot, memory, rest =>
    repeatRounds subject.roundLimit keeps mode least most (fun inner => body.match subject inner)
      spot memory rest
  | .look behind negative body, keeps, spot, memory, rest =>
    match spot.back behind with
    | none => if negative then rest spot memory else .failed memory
    | some start =>
      match body.match subject keeps start (memory.atSpot start) complete, negative with
      | .found after, false => rest spot after
      | .found after, true => .failed after
      | .failed after, false => .failed after
      | .failed after, true => rest spot (after.restore keeps memory.marks)
  | .atomic body, keeps, spot, memory, rest =>
    match body.match subject keeps spot (memory.atSpot spot) complete with
    | .found after => rest after.cursor after
    | .failed after => .failed (after.atSpot spot)
  | .conditional index whenSet whenUnset, keeps, spot, memory, rest =>
    if (memory.group? index).isSome then whenSet.match subject keeps spot memory rest
    else whenUnset.match subject keeps spot memory rest

/-- The memory that a match leaves which begins at a spot or at one of the spots after it, as many
as are given. -/
def Node.search? (node : Node) (subject : Subject) : (spots : Nat) → Spot → Option Memory
  | 0, _ => none
  | spots + 1, spot =>
    match node.match subject false spot ⟨spot, #[]⟩ complete with
    | .found memory => some memory
    | .failed _ => match spot.forward with
      | some (_, next) => node.search? subject spots next
      | none => none

end Observance.Pattern

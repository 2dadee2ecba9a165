/-! # Sorting with comparisons that may fail

A list is sorted by merging runs. Each run is found in the list, or made by inserting further
elements into one that is short, and is merged with runs before it as soon as the midpoints of the
two lie in different halves of a large enough part of the list. If a comparison fails, sorting
fails with its error. So when several comparisons would fail, their order decides, and it is fixed:

* A boundary between two runs is looked for from one place outwards, in steps that double, and then
  between the last two places.
* A merge starts at the outer end of the shorter run. It compares elements one by one until one run
  has won several times in a row, and from then on looks for boundaries, as long as that pays.
-/

namespace Observance.Sorting

variable {α ε : Type}

/-- The first place in `[low, high)` whose element does not belong to the left, or `high`. -/
def search? (isLeft : Nat → Except ε Bool) (low high : Nat) : Except ε Nat := do
  if low < high then
    let middle := (low + high) / 2
    if ← isLeft middle then search? isLeft (middle + 1) high else search? isLeft low middle
  else return low
termination_by high - low

/-- Goes on from a place in steps that double, while a condition holds; the last offset at which it
held, and the next, which is at most `limit`. -/
def stride? (holds : Nat → Except ε Bool) (limit last offset : Nat) : Except ε (Nat × Nat) := do
  if offset < limit then
    if ← holds offset then stride? holds limit offset (2 * offset + 1) else return (last, offset)
  else return (last, limit)
termination_by limit - offset

/-- The first of `size` places whose element does not belong to the left, or `size`, looked for from
`start` outwards. -/
def boundary? (isLeft : Nat → Except ε Bool) (size start : Nat) : Except ε Nat := do
  if ← isLeft start then
    let (last, next) ← stride? (fun offset => isLeft (start + offset)) (size - start) 0 1
    search? isLeft (start + last + 1) (start + next)
  else
    let isRight (offset : Nat) : Except ε Bool := return !(← isLeft (start - offset))
    let (last, next) ← stride? isRight (start + 1) 0 1
    search? isLeft (start + 1 - next) (start - last)

section Merging

/-- The end from which two runs are merged. -/
inductive Direction where
  | forwards
  | backwards
deriving DecidableEq, Repr

/-- Two runs that are merged: what is left of them, and what is merged. -/
structure Merge (α : Type) where
  left : Array α
  right : Array α
  merged : Array α := #[]

/-- Puts some elements next to the merged ones, which grow towards the other end. -/
def Direction.add (direction : Direction) (merged taken : Array α) : Array α :=
  match direction with
  | .forwards => merged ++ taken
  | .backwards => taken ++ merged

/-- Some elements at the end of a run at which merging goes on, and the others. -/
def Direction.cut (direction : Direction) (run : Array α) (count : Nat) : Array α × Array α :=
  match direction with
  | .forwards => (run.extract 0 count, run.extract count run.size)
  | .backwards => (run.extract (run.size - count) run.size, run.extract 0 (run.size - count))

def Merge.takeLeft (merge : Merge α) (direction : Direction) (count : Nat) : Merge α :=
  let (taken, left) := direction.cut merge.left count
  { merge with left, merged := direction.add merge.merged taken }

def Merge.takeRight (merge : Merge α) (direction : Direction) (count : Nat) : Merge α :=
  let (taken, right) := direction.cut merge.right count
  { merge with right, merged := direction.add merge.merged taken }

/-- Whether no comparison is left to make: one run is used up, or the run that is known to reach
beyond the other has only that element left. -/
def Merge.isDecided (merge : Merge α) : Direction → Bool
  | .forwards => merge.left.size ≤ 1 || merge.right.isEmpty
  | .backwards => merge.left.isEmpty || merge.right.size ≤ 1

def Merge.finish (merge : Merge α) : Direction → Array α
  | .forwards => merge.merged ++ merge.right ++ merge.left
  | .backwards => merge.right ++ merge.left ++ merge.merged

/-- What a merge does next: it compares one by one, knowing how often each run has won in a row, or
it looks for boundaries. -/
inductive Pace where
  | single (leftWins rightWins : Nat)
  | strides (isFirst : Bool)

/-- How often a run has to win in a row before boundaries are looked for, at first. -/
def usualPatience : Nat := 7

variable (before : α → α → Except ε Bool)

/-- How many elements of the left run are taken before the next of the right run. -/
def countLeft? (direction : Direction) (merge : Merge α) : Except ε Nat := do
  let size := merge.left.size
  match direction with
  | .forwards =>
    let some next := merge.right[0]? | return 0
    boundary? (fun i => return !(← before next (merge.left.getD i next))) size 0
  | .backwards =>
    let some next := merge.right.back? | return 0
    return size -
      (← boundary? (fun i => return !(← before next (merge.left.getD i next))) size (size - 1))

/-- How many elements of the right run are taken before the next of the left run. -/
def countRight? (direction : Direction) (merge : Merge α) : Except ε Nat := do
  let size := merge.right.size
  match direction with
  | .forwards =>
    let some next := merge.left[0]? | return 0
    boundary? (fun i => before (merge.right.getD i next) next) size 0
  | .backwards =>
    let some next := merge.left.back? | return 0
    return size - (← boundary? (fun i => before (merge.right.getD i next) next) size (size - 1))

/-- Whether the next element to take is one of the right run. -/
def takesRight? (direction : Direction) (merge : Merge α) : Except ε Bool :=
  match direction with
  | .forwards =>
    match merge.left[0]?, merge.right[0]? with
    | some left, some right => before right left
    | _, _ => .ok false
  | .backwards =>
    match merge.left.back?, merge.right.back? with
    | some left, some right => return !(← before right left)
    | _, _ => .ok false

/-- One round of looking for a boundary in either run; the lengths of the two parts found, unless
the merge is decided before. -/
def strideOnce? (direction : Direction) (merge : Merge α) :
    Except ε (Merge α × Option (Nat × Nat)) := do
  let leftCount ← countLeft? before direction merge
  let merge := merge.takeLeft direction leftCount
  if merge.isDecided direction then return (merge, none)
  let merge := merge.takeRight direction 1
  if merge.isDecided direction then return (merge, none)
  let rightCount ← countRight? before direction merge
  let merge := merge.takeRight direction rightCount
  if merge.isDecided direction then return (merge, none)
  return (merge.takeLeft direction 1, some (leftCount, rightCount))

/-- Merges until the merge is decided; the result is the merged run, and the patience for the next
merge. Every step takes an element, so as many steps as there are elements are enough. -/
def mergeOn? (direction : Direction) :
    Nat → Merge α → Pace → Nat → Except ε (Array α × Nat)
  | 0, merge, _, patience => .ok (merge.finish direction, patience)
  | steps + 1, merge, pace, patience => do
    if merge.isDecided direction then return (merge.finish direction, patience)
    match pace with
    | .single leftWins rightWins =>
      if ← takesRight? before direction merge then
        let pace := if rightWins + 1 ≥ patience then .strides true else .single 0 (rightWins + 1)
        mergeOn? direction steps (merge.takeRight direction 1) pace patience
      else
        let pace := if leftWins + 1 ≥ patience then .strides true else .single (leftWins + 1) 0
        mergeOn? direction steps (merge.takeLeft direction 1) pace patience
    | .strides isFirst =>
      let patience := if isFirst then patience else max 1 (patience - 1)
      match ← strideOnce? before direction merge with
      | (merge, none) => return (merge.finish direction, patience)
      | (merge, some (leftCount, rightCount)) =>
        if merge.isDecided direction then return (merge.finish direction, patience)
        if leftCount ≥ usualPatience || rightCount ≥ usualPatience then
          mergeOn? direction steps merge (.strides false) patience
        else mergeOn? direction steps merge (.single 0 0) (patience + 1)

/-- Merges two runs that are next to each other. What is in its place already is left out of the
merge: the front of the left run, and the end of the right run. -/
def mergeRuns? (left right : Array α) (patience : Nat) : Except ε (Array α × Nat) := do
  let (some firstRight, some lastLeft) := (right[0]?, left.back?) | return (left ++ right, patience)
  let front ← boundary? (fun i => return !(← before firstRight (left.getD i lastLeft))) left.size 0
  if front = left.size then return (left ++ right, patience)
  let size ← boundary? (fun i => before (right.getD i firstRight) lastLeft) right.size
    (right.size - 1)
  if size = 0 then return (left ++ right, patience)
  let merge : Merge α := { left := left.extract front left.size, right := right.extract 0 size }
  let (direction, merge) :=
    if merge.left.size ≤ merge.right.size then (.forwards, merge.takeRight .forwards 1)
    else (.backwards, merge.takeLeft .backwards 1)
  let (merged, patience) ← mergeOn? before direction (left.size + right.size) merge (.single 0 0)
    patience
  return (left.extract 0 front ++ merged ++ right.extract size right.size, patience)

end Merging

section Runs

variable (before : α → α → Except ε Bool)

/-- The length of the run that the elements after `last` continue: of elements that come before the
one they follow, if `descending`, and of elements that do not, otherwise. -/
def runLength? (descending : Bool) (last : α) : List α → Except ε Nat
  | [] => .ok 0
  | element :: elements => do
    if (← before element last) == descending then
      return (← runLength? descending element elements) + 1
    else return 0

def insertAll? (run : Array α) : List α → Except ε (Array α)
  | [] => .ok run
  | element :: elements => do
    let place ← search? (fun i => return !(← before element (run.getD i element))) 0 run.size
    insertAll? (run.extract 0 place ++ #[element] ++ run.extract place run.size) elements

/-- The run at the front of a list, made at least as long as `shortest` if there are that many
elements. -/
def firstRun? (shortest : Nat) : List α → Except ε (Array α)
  | first :: second :: elements => do
    let descending ← before second first
    let length ← runLength? before descending second elements
    let run := (first :: second :: elements.take length).toArray
    let run := if descending then run.reverse else run
    insertAll? before run ((elements.drop length).take (shortest - run.size))
  | elements => .ok elements.toArray

/-- The shortest run that is not extended: all elements if there are few, and otherwise so many that
the number of runs is just below a power of two. -/
def shortestRun (size : Nat) (isUneven : Bool := false) : Nat :=
  if size < 64 then size + isUneven.toNat
  else shortestRun (size / 2) (isUneven || size % 2 == 1)
termination_by size

/-- The depth at which the midpoints of two runs, given from the start of the list and in halves of
elements, first lie in different halves. One of them is less than twice the size of the list. -/
def depthBetween (size : Nat) : Nat → Nat → Nat → Nat
  | 0, _, _ => 0
  | bits + 1, first, second =>
    if first ≥ size then depthBetween size bits (2 * (first - size)) (2 * (second - size)) + 1
    else if second ≥ size then 1
    else depthBetween size bits (2 * first) (2 * second) + 1

/-- A run that waits to be merged, with the place of its first element, and the depth between it and
the run after it. -/
structure Waiting (α : Type) where
  start : Nat
  run : Array α
  depth : Nat := 0

/-- Merges the runs that wait, the last first, while the last is deeper than the next. -/
def settle? (depth : Nat) : Waiting α → List (Waiting α) → Nat →
    Except ε (Waiting α × List (Waiting α) × Nat)
  | last, [], patience => .ok (last, [], patience)
  | last, previous :: waiting, patience => do
    if previous.depth > depth then
      let (run, patience) ← mergeRuns? before previous.run last.run patience
      settle? depth { previous with run } waiting patience
    else return (last, previous :: waiting, patience)

/-- Merges all runs that wait, the last first: the last with the one before it, or that one with the
one before it, if that is shorter than the last. -/
def mergeAll? : Nat → List (Waiting α) → Nat → Except ε (Array α)
  | steps + 1, last :: previous :: earlier :: waiting, patience => do
    if earlier.run.size < last.run.size then
      let (run, patience) ← mergeRuns? before earlier.run previous.run patience
      mergeAll? steps (last :: { earlier with run } :: waiting) patience
    else
      let (run, patience) ← mergeRuns? before previous.run last.run patience
      mergeAll? steps ({ previous with run } :: earlier :: waiting) patience
  | _ + 1, [last, previous], patience =>
    return (← mergeRuns? before previous.run last.run patience).1
  | _, waiting, _ => .ok (waiting.foldl (fun sorted next => next.run ++ sorted) #[])

/-- Finds run after run, and merges those that wait as soon as their depth says so. Every run has an
element, so as many steps as there are elements are enough. -/
def sortRuns? (size : Nat) : Nat → Nat → List α → List (Waiting α) → Nat → Except ε (Array α)
  | 0, _, _, waiting, patience => mergeAll? before waiting.length waiting patience
  | _, _, [], waiting, patience => mergeAll? before waiting.length waiting patience
  | steps + 1, start, elements, waiting, patience => do
    let run ← firstRun? before (shortestRun size) elements
    let (waiting, patience) ← match waiting with
      | [] => pure ([], patience)
      | last :: waiting =>
        let middle := 2 * last.start + last.run.size
        let depth := depthBetween size (size + 2) middle (middle + last.run.size + run.size)
        let (last, waiting, patience) ← settle? before depth last waiting patience
        pure ({ last with depth } :: waiting, patience)
    sortRuns? size steps (start + run.size) (elements.drop run.size) ({ start, run } :: waiting)
      patience

end Runs

/-- A list in the order in which elements come before others, or the error of the first comparison
that fails. -/
def sort? (before : α → α → Except ε Bool) (elements : List α) : Except ε (List α) := do
  let sorted ← sortRuns? before elements.length elements.length 0 elements [] usualPatience
  return sorted.toList

end Observance.Sorting

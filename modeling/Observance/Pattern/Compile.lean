import Observance.Pattern.Matcher
import Observance.Pattern.Parser

/-! # From syntax to matching

Putting a pattern together applies its flags. A look-behind needs one single width, which can only
be told now that all groups are known. Like reading it, this goes into the bodies of its items only
as deeply as there is room.
-/

namespace Observance.Pattern

/-- The case differences that a pattern disregards under given flags. -/
def Flags.folding (flags : Flags) : Folding :=
  if !flags.ignoreCase then .none else if flags.ascii then .ascii else .full

/-- A zero-width test under given flags. -/
def Anchor.toTest (flags : Flags) : Anchor → SpotTest
  | .lineStart => if flags.multiline then .lineStart else .textStart
  | .lineEnd => if flags.multiline then .lineEnd else .lastLineEnd
  | .textStart => .textStart
  | .textEnd => .textEnd
  | .wordEdge => .wordEdge flags.ascii false
  | .notWordEdge => .wordEdge flags.ascii true

/-- The width of a look-behind. -/
def lookbehindWidth (widths : List (Nat × Width)) (body : List Item) : Except Fault Nat :=
  let width := sequenceWidth widths body
  if width.least ≠ width.most then .error (.invalid .lookbehindNotFixed none)
  else .ok width.least

namespace Node

/-- The test that a node begins with, if it settles what may come first; `next` is that of the node
after it. -/
def lead? (next : Option CharTest) : Node → Option CharTest
  | .empty => next
  | .char test => if test.settlesFirst then some test else none
  | .seq first second => first.lead? (second.lead? next)
  | _ => none

def single? : Node → Option CharTest
  | .char test => some test
  | .seq first .empty => first.single?
  | _ => none

/-- The repetition of a node that `next` comes after. -/
def repeating (mode : RepeatMode) (least : Nat) (most : Option Nat) (body : Node)
    (next : Option CharTest) : Node :=
  match body.single? with
  | some test => .run mode least most test (next.bind CharTest.onlyCode?)
  | none => .repeated mode least most body

def widestLook : Node → Nat
  | .seq first second => max first.widestLook second.widestLook
  | .choice _ first others => max first.widestLook others.widestLook
  | .capture _ body | .repeated _ _ _ body | .atomic body => body.widestLook
  | .look behind _ body => max behind body.widestLook
  | .conditional _ whenSet whenUnset => max whenSet.widestLook whenUnset.widestLook
  | _ => 0

end Node

/-- The room inside the body of an item. -/
def enterBody (room : Room) : Except Fault Room :=
  match room.enter? 1 with
  | some inside => .ok inside
  | none => .error .tooDeep

mutual

/-- An item, ready for matching; `next` is the test that what follows it begins with. -/
def Item.toNode (widths : List (Nat × Width)) (flags : Flags) (room : Room)
    (next : Option CharTest) : Item → Except Fault Node
  | .literal code => .ok (.char (.ofCode flags.folding false code))
  | .notLiteral code => .ok (.char (.ofCode flags.folding true code))
  | .any => .ok (.char (if flags.dotAll then .any else .notLineFeed))
  | .set negated members => .ok (.char (.ofMembers flags.folding flags.ascii negated members))
  | .anchor kind => .ok (.edge (kind.toTest flags))
  | .branch alternatives => do
    alternativesToNode widths flags (← enterBody room) alternatives
  | .group none add remove body => do
    sequenceToNode widths (flags.within add remove) (← enterBody room) next body
  | .group (some index) add remove body => do
    let node ← sequenceToNode widths (flags.within add remove) (← enterBody room) none body
    return .capture index node
  | .atomic body => do
    return .atomic (← sequenceToNode widths flags (← enterBody room) none body)
  | .repeated mode least most body => do
    if flags.template then throw (.invalid (.templateRepeat mode) none)
    let node ← sequenceToNode widths flags (← enterBody room) none body
    return .repeating mode least most node next
  | .backreference index => .ok (.backreference flags.folding index)
  | .conditional index whenSet whenUnset => do
    let inside ← enterBody room
    let first ← sequenceToNode widths flags inside (if whenUnset.isEmpty then next else none) whenSet
    let second ← sequenceToNode widths flags inside next whenUnset
    return .conditional index first second
  | .look false negative body => do
    return .look 0 negative (← sequenceToNode widths flags (← enterBody room) none body)
  | .look true negative body => do
    let width ← lookbehindWidth widths body
    return .look width negative (← sequenceToNode widths flags (← enterBody room) none body)

/-- A sequence, ready for matching; `next` is the test that what follows it begins with. -/
def sequenceToNode (widths : List (Nat × Width)) (flags : Flags) (room : Room)
    (next : Option CharTest) : List Item → Except Fault Node
  | [] => .ok .empty
  | item :: rest => do
    let others := sequenceToNode widths flags room next rest
    let lead := others.toOption.bind (·.lead? next)
    return .seq (← item.toNode widths flags room lead) (← others)

def alternativesToNode (widths : List (Nat × Width)) (flags : Flags) (room : Room) :
    List (List Item) → Except Fault Node
  | [] => .ok .fail
  | first :: others => do
    let node ← sequenceToNode widths flags room none first
    return .choice (node.lead? none) node (← alternativesToNode widths flags room others)

end

/-- How far back a search can look. -/
def farthestLook : Nat := Nat.pow 2 31 - 1

/-- The items of a pattern, ready for matching. There is room for one body more than when they were
read. -/
def assemble (widths : List (Nat × Width)) (flags : Flags) (room : Room) (items : List Item) :
    Except Fault Node := do
  let node ← sequenceToNode widths flags (room.map (· + 1)) none items
  if node.widestLook > farthestLook then throw .unusable
  return node

end Observance.Pattern

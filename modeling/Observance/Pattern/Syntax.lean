/-! # Syntax of search patterns

A pattern is a sequence of items. The flags that a group switches on or off stay with the group,
and nothing here depends on what the pattern will be compared with.
-/

namespace Observance.Pattern

/-- The switches of a pattern. -/
structure Flags where
  ignoreCase : Bool := false
  multiline : Bool := false
  dotAll : Bool := false
  verbose : Bool := false
  ascii : Bool := false
  unicode : Bool := false
  template : Bool := false
deriving Repr, DecidableEq, Inhabited

namespace Flags

/-- Switches on everything that either side has on. -/
def union (left right : Flags) : Flags where
  ignoreCase := left.ignoreCase || right.ignoreCase
  multiline := left.multiline || right.multiline
  dotAll := left.dotAll || right.dotAll
  verbose := left.verbose || right.verbose
  ascii := left.ascii || right.ascii
  unicode := left.unicode || right.unicode
  template := left.template || right.template

/-- Whether two sets of flags share one. -/
def meets (left right : Flags) : Bool :=
  left.ignoreCase && right.ignoreCase || left.multiline && right.multiline ||
    left.dotAll && right.dotAll || left.verbose && right.verbose || left.ascii && right.ascii ||
    left.unicode && right.unicode || left.template && right.template

/-- Whether a group's flags leave everything as it is. -/
def isNone (flags : Flags) : Bool := flags == {}

/-- The flags inside a group: one alphabet flag displaces the other, then the flags to be removed
go. -/
def within (outer add remove : Flags) : Flags :=
  let base := if add.ascii || add.unicode then { outer with ascii := false, unicode := false }
    else outer
  let all := base.union add
  { ignoreCase := all.ignoreCase && !remove.ignoreCase
    multiline := all.multiline && !remove.multiline
    dotAll := all.dotAll && !remove.dotAll
    verbose := all.verbose && !remove.verbose
    ascii := all.ascii && !remove.ascii
    unicode := all.unicode && !remove.unicode
    template := all.template && !remove.template }

end Flags

/-- The character classes that have an escape of their own. -/
inductive Category where
  | digit
  | space
  | word
deriving Repr, DecidableEq, Inhabited

/-- One member of a character set; characters are given by code point. -/
inductive Member where
  | code (value : Nat)
  | range (low high : Nat)
  | category (kind : Category) (negated : Bool)
deriving Repr, DecidableEq, Inhabited

/-- The zero-width tests that a pattern can write as an item. -/
inductive Anchor where
  /-- The caret. -/
  | lineStart
  /-- The dollar sign. -/
  | lineEnd
  | textStart
  | textEnd
  | wordEdge
  | notWordEdge
deriving Repr, DecidableEq, Inhabited

/-- How a repetition chooses among the numbers of rounds it may make. -/
inductive RepeatMode where
  /-- As many rounds as possible, fewer if the rest needs it. -/
  | greedy
  /-- As few rounds as possible, more if the rest needs it. -/
  | lazy
  /-- As many rounds as possible, whatever the rest needs. -/
  | possessive
deriving Repr, DecidableEq, Inhabited

/-- An item of a pattern. -/
inductive Item where
  | literal (code : Nat)
  | notLiteral (code : Nat)
  | any
  | set (negated : Bool) (members : List Member)
  | anchor (kind : Anchor)
  | branch (alternatives : List (List Item))
  | group (index : Option Nat) (add remove : Flags) (body : List Item)
  | atomic (body : List Item)
  | repeated (mode : RepeatMode) (least : Nat) (most : Option Nat) (body : List Item)
  | backreference (index : Nat)
  | conditional (index : Nat) (whenSet whenUnset : List Item)
  | look (behind negative : Bool) (body : List Item)
deriving Repr, Inhabited

namespace Item

def isRepeated : Item → Bool
  | .repeated .. => true
  | _ => false

/-- Items that are zero-width tests. -/
def isAnchor : Item → Bool
  | .anchor _ => true
  | _ => false

/-- The body of a group that neither captures nor changes a flag. -/
def plainGroup? : Item → Option (List Item)
  | .group none add remove body => if add.isNone && remove.isNone then some body else none
  | _ => none

/-- Whether two items are the same one-character test, zero-width test or back reference. Items
with a body are never taken for the same. -/
def sameUnit : Item → Item → Bool
  | .literal a, .literal b => a == b
  | .notLiteral a, .notLiteral b => a == b
  | .any, .any => true
  | .set n a, .set m b => n == m && a == b
  | .anchor a, .anchor b => a == b
  | .backreference a, .backreference b => a == b
  | _, _ => false

/-- The members that an item contributes when one-character alternatives are merged to a set. -/
def members? : Item → Option (List Member)
  | .literal code => some [.code code]
  | .set false members => some members
  | _ => none

end Item

def distinct [BEq α] (values : List α) : List α :=
  (values.foldl (fun kept value => if kept.contains value then kept else value :: kept) []).reverse

/-- Replaces every plain group of a sequence by its contents. -/
def inlinePlainGroups (items : List Item) : List Item :=
  items.flatMap fun item => item.plainGroup?.getD [item]

/-- The items with which all alternatives begin, and what is left of each alternative. -/
def commonPrefix : List Item → List (List Item) → List Item × List (List Item)
  | [], others => ([], [] :: others)
  | head :: rest, others =>
    let startsAlike : List Item → Bool
      | [] => false
      | first :: _ => first.sameUnit head
    if others.all startsAlike then
      let (shared, remaining) := commonPrefix rest (others.map List.tail)
      (head :: shared, remaining)
    else ([], (head :: rest) :: others)

/-- The members of the set that alternatives of one character each amount to. -/
def mergedMembers? (alternatives : List (List Item)) : Option (List Member) :=
  alternatives.foldr (fun alternative merged => do
    match alternative with
    | [item] => return (← item.members?) ++ (← merged)
    | _ => none) (some [])

/-- The sequence for a list of alternatives: what all begin with stands in front, and alternatives
of one character each become a set. -/
def alternation : List (List Item) → List Item
  | [] => []
  | [only] => only
  | first :: others =>
    let (shared, remaining) := commonPrefix first others
    match mergedMembers? remaining with
    | some members => shared ++ [.set false (distinct members)]
    | none => shared ++ [.branch remaining]

end Observance.Pattern

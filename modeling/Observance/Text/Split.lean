import Observance.Text.Basic

/-! # Parts of a text

A mark divides a text: its first or its last occurrence into two parts, and all its occurrences into
any number of them.
-/

namespace Observance.Text

variable {α : Type} [DecidableEq α]

/-- The parts of a text before and after the first occurrence of a character; all of it and
nothing, if there is none. -/
def cutAt (mark : α) (text : List α) : List α × List α :=
  (text.takeWhile (· != mark), (text.dropWhile (· != mark)).tail)

/-- The parts of a text between the occurrences of a character. -/
def splitAt (mark : α) : List α → List (List α)
  | [] => [[]]
  | c :: rest =>
    if c == mark then [] :: splitAt mark rest
    else match splitAt mark rest with
      | [] => [[c]]
      | part :: parts => (c :: part) :: parts

/-- The part of a text before the first occurrence of a character, and the part after it, if there
is one. -/
def splitOff (mark : α) (text : List α) : List α × Option (List α) :=
  if text.contains mark then ((cutAt mark text).1, some (cutAt mark text).2) else (text, none)

/-- The parts of a text before and after the last occurrence of a character; nothing and all of it,
if there is none. -/
def cutAtLast (mark : α) (text : List α) : List α × List α :=
  let (after, before) := cutAt mark text.reverse
  (before.reverse, after.reverse)

def joinWith (mark : α) (parts : List (List α)) : List α := [mark].intercalate parts

def occursIn (part : List α) : List α → Bool
  | [] => part.isEmpty
  | c :: rest => part.isPrefixOf (c :: rest) || occursIn part rest

end Observance.Text

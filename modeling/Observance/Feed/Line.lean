import Observance.Text.Basic

/-! # Lines of a feed

A feed is a text of lines that end in a line feed, perhaps with a carriage return before it. A
line that begins with a space or a tab continues the line before it: its first character is
dropped and the rest is appended. Continuations with no line before them are dropped altogether.
-/

namespace Observance.Feed

/-- The lines of a text, without their ends. There is one more of them than of ends. -/
def splitLines : Text → List Text
  | [] => [[]]
  | '\r' :: '\n' :: rest => [] :: splitLines rest
  | '\n' :: rest => [] :: splitLines rest
  | c :: rest =>
    match splitLines rest with
    | [] => [[c]]
    | line :: lines => (c :: line) :: lines

def isContinuation (line : Text) : Bool :=
  match line with
  | ' ' :: _ | '\t' :: _ => true
  | _ => false

/-- Joins lines with their continuations. The first part of the result is what the lines have to
add to a line before them. -/
def joinLines : List Text → Text × List Text
  | [] => ([], [])
  | line :: lines =>
    let (continued, joined) := joinLines lines
    if isContinuation line then (line.tail ++ continued, joined)
    else ([], (line ++ continued) :: joined)

/-- The logical lines of a text. -/
def unfoldLines (text : Text) : List Text := (joinLines (splitLines text)).2

end Observance.Feed

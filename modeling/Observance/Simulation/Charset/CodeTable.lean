/-! # Tables of codes

A set of characters gives numbers, its codes, to characters. A table lists stretches of consecutive
codes. Either it spells out the characters of a stretch, or they are consecutive as well.
-/

namespace Observance.Simulation.Charset

/-- The character of a code point; none for halves of pairs and beyond the last plane. -/
def scalar? (code : Nat) : Option Char :=
  if valid : code.isValidChar then some (Char.ofNatAux code valid) else none

/-- Stretches of codes in ascending order: the first code, and the characters of it and the codes
after it. The replacement character stands for a code without a character. -/
abbrev CodeTable := List (Nat × String)

namespace CodeTable

def stretch? (code : Nat) : CodeTable → Option (Nat × String)
  | [] => none
  | (start, text) :: table =>
    if code < start then none else (stretch? code table).or (some (start, text))

/-- The character of a code. -/
def get? (table : CodeTable) (code : Nat) : Option Char := do
  let (start, text) ← table.stretch? code
  let character ← text.toList[code - start]?
  if character = '\uFFFD' then none else return character

end CodeTable

/-- Stretches of codes for consecutive characters: the first code, how many there are, and the code
point of the first character. -/
abbrev CodeRuns := List (Nat × Nat × Nat)

def CodeRuns.get? (runs : CodeRuns) (code : Nat) : Option Char :=
  runs.findSome? fun (start, count, first) =>
    if start ≤ code && code < start + count then scalar? (first + (code - start)) else none

end Observance.Simulation.Charset

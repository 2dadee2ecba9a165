import Observance.Simulation.HostName.Character

/-! # Directions

A label with a character that is written to the left has to be written to the left as a whole: it
begins with a letter of that direction, has no letter of the other one, does not mix two kinds of
digits, and ends with a letter or a digit, apart from marks.
-/

namespace Observance.Simulation.HostName

open Observance.Text

/-- What a character means for the direction of a text. -/
inductive Direction where
  | rightward
  | leftward
  | digit
  | arabicDigit
  | neutral
  | mark
deriving Repr, DecidableEq

/-- The characters that are written to the left. -/
def leftwardLetters : CodeSet where
  edges := #[
    1488, 1515, 1519, 1525, 1568, 1600, 1601, 1611, 1646, 1648, 1649, 1653, 1657, 1748, 1749, 1750,
    1765, 1767, 1774, 1776, 1786, 1792, 1808, 1809, 1810, 1840, 1869, 1958, 1969, 1970, 1984, 2027,
    2036, 2038, 2048, 2070, 2074, 2075, 2084, 2085, 2088, 2089, 2112, 2137, 2144, 2155, 2160, 2184,
    2185, 2191, 2208, 2250, 65139, 65140, 67584, 67590, 67592, 67593, 67594, 67638, 67639, 67641,
    67644, 67645, 67647, 67670, 67680, 67703, 67712, 67743, 67808, 67827, 67828, 67830, 67840,
    67862, 67872, 67898, 67968, 68024, 68030, 68032, 68096, 68097, 68112, 68116, 68117, 68120,
    68121, 68150, 68192, 68221, 68224, 68253, 68288, 68296, 68297, 68325, 68352, 68406, 68416,
    68438, 68448, 68467, 68480, 68498, 68608, 68681, 68800, 68851, 68864, 68900, 69248, 69290,
    69296, 69298, 69376, 69405, 69415, 69416, 69424, 69446, 69488, 69506, 69552, 69573, 69600,
    69623, 124928, 125125, 125218, 125252, 125259, 125260, 125264, 125274]

/-- The characters without a direction of their own. -/
def neutrals : CodeSet where
  edges := #[
    183, 184, 697, 699, 710, 720, 748, 749, 885, 886, 8204, 8206, 11823, 11824, 12539, 12540, 42623,
    42624, 42775, 42784, 42888, 42889]

namespace Direction

def ofCode (code : Nat) : Direction :=
  if (0x30 ≤ code && code ≤ 0x39) || (0x6F0 ≤ code && code ≤ 0x6F9) then .digit
  else if (0x660 ≤ code && code ≤ 0x669) || (0x10D30 ≤ code && code ≤ 0x10D39) then .arabicDigit
  else if code == 0x2D || neutrals.contains code then .neutral
  else if lyingMarks.contains code then .mark
  else if leftwardLetters.contains code then .leftward
  else .rightward

/-- Whether directions are those of a label that is written to the left as a whole. -/
def isLeftward (directions : List Direction) : Bool :=
  directions.head? == some .leftward && !directions.contains .rightward &&
    !(directions.contains .digit && directions.contains .arabicDigit) &&
    (directions.reverse.find? (· != .mark)).any [.leftward, .digit, .arabicDigit].contains

end Direction

def hasOneDirection (label : List Nat) : Bool :=
  let directions := label.map Direction.ofCode
  !(directions.contains .leftward || directions.contains .arabicDigit) ||
    Direction.isLeftward directions

end Observance.Simulation.HostName

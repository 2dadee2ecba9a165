import Observance.Simulation.HostName.Character
import Observance.Simulation.HostName.Composition

/-! # Characters in context

Some characters may stand in a label only between certain others: the two invisible joiners where
the script needs them, some points beside letters of their script, and digits of one kind if there
are none of the other.
-/

namespace Observance.Simulation.HostName

open Observance.Text

def greek : CodeSet where
  edges := #[
    880, 884, 885, 888, 890, 894, 895, 896, 900, 901, 902, 903, 904, 907, 908, 909, 910, 930, 931,
    994, 1008, 1024, 7462, 7467, 7517, 7522, 7526, 7531, 7615, 7616, 7936, 7958, 7960, 7966, 7968,
    8006, 8008, 8014, 8016, 8024, 8025, 8026, 8027, 8028, 8029, 8030, 8031, 8062, 8064, 8117, 8118,
    8133, 8134, 8148, 8150, 8156, 8157, 8176, 8178, 8181, 8182, 8191, 8486, 8487, 43877, 43878,
    65856, 65935, 65952, 65953, 119296, 119366]

def hebrew : CodeSet where
  edges := #[
    1425, 1480, 1488, 1515, 1519, 1525, 64285, 64311, 64312, 64317, 64318, 64319, 64320, 64322,
    64323, 64325, 64326, 64336]

/-- The characters of the two Japanese syllabaries and the Chinese ones. -/
def japanese : CodeSet where
  edges := #[
    11904, 11930, 11931, 12020, 12032, 12246, 12293, 12294, 12295, 12296, 12321, 12330, 12344,
    12348, 12353, 12439, 12445, 12448, 12449, 12539, 12541, 12544, 12784, 12800, 13008, 13055,
    13056, 13144, 13312, 19904, 19968, 40960, 63744, 64110, 64112, 64218, 65382, 65392, 65393,
    65438, 94178, 94180, 94192, 94199, 110576, 110580, 110581, 110588, 110589, 110591, 110592,
    110883, 110898, 110899, 110928, 110931, 110933, 110934, 110948, 110952, 127488, 127489, 131072,
    173792, 173824, 178206, 178208, 183982, 183984, 191457, 191472, 192094, 194560, 195102, 196608,
    201547, 201552, 210042]

/-- The characters that join to the character after them. -/
def joinsAfter : CodeSet where
  edges := #[
    1568, 1569, 1574, 1575, 1576, 1577, 1578, 1583, 1587, 1600, 1601, 1608, 1609, 1611, 1646, 1648,
    1657, 1672, 1690, 1728, 1729, 1731, 1740, 1741, 1742, 1743, 1744, 1746, 1786, 1789, 1791, 1792,
    1810, 1813, 1818, 1822, 1823, 1832, 1833, 1834, 1835, 1836, 1837, 1839, 1870, 1881, 1884, 1899,
    1901, 1905, 1906, 1907, 1909, 1912, 1914, 1920, 1994, 2027, 2113, 2118, 2120, 2121, 2122, 2132,
    2133, 2134, 2144, 2145, 2146, 2150, 2152, 2153, 2182, 2183, 2185, 2190, 2208, 2218, 2223, 2225,
    2227, 2233, 2234, 2249, 6176, 6265, 6279, 6313, 6314, 6315, 43072, 43123, 68288, 68293, 68301,
    68302, 68307, 68317, 68318, 68321, 68480, 68481, 68482, 68483, 68486, 68489, 68490, 68492,
    68493, 68494, 68496, 68497, 68864, 68898, 68899, 68900, 69424, 69427, 69428, 69445, 69488,
    69492, 69494, 69506, 69552, 69553, 69554, 69556, 69560, 69561, 69563, 69565, 69566, 69568,
    69569, 69570, 69572, 69573, 125218, 125252]

/-- The characters that join to the character before them. -/
def joinsBefore : CodeSet where
  edges := #[
    1568, 1569, 1570, 1600, 1601, 1611, 1646, 1648, 1649, 1652, 1657, 1748, 1749, 1750, 1774, 1776,
    1786, 1789, 1791, 1792, 1808, 1809, 1810, 1840, 1869, 1920, 1994, 2027, 2112, 2137, 2144, 2145,
    2146, 2150, 2151, 2155, 2160, 2179, 2182, 2183, 2185, 2191, 2208, 2221, 2222, 2249, 6176, 6265,
    6279, 6313, 6314, 6315, 43072, 43122, 68288, 68294, 68295, 68296, 68297, 68299, 68302, 68311,
    68312, 68322, 68324, 68325, 68480, 68498, 68865, 68900, 69424, 69445, 69488, 69506, 69552,
    69553, 69554, 69559, 69560, 69568, 69569, 69573, 125218, 125252]

/-- Whether a character does not count where characters join. -/
def isTransparent (code : Nat) : Bool :=
  (lyingMarks.contains code && code != 0x1171E) ||
    [0xCBF, 0xCC6, 0x11A07, 0x11A08, 0x11C3F, 0x1E94B].contains code

def joinsTo (set : CodeSet) (text : List Nat) : Bool :=
  (text.find? (!isTransparent ·)).any set.contains

/-- The class of the marks that take the vowel from a letter. -/
def vowelKillerClass : Nat := 9

/-- Whether a text ends in a letter without its vowel; the last character comes first. -/
def endsVowelless (before : List Nat) : Bool :=
  before.head?.any (markClass · == vowelKillerClass)

def isArabicDigit (code : Nat) : Bool := 0x660 ≤ code && code ≤ 0x669

def isPersianDigit (code : Nat) : Bool := 0x6F0 ≤ code && code ≤ 0x6F9

/-- Whether a character may stand between those before it, the nearest first, and those after
it. -/
def fits (before : List Nat) (code : Nat) (after : List Nat) : Bool :=
  let others := before ++ after
  if isPermitted code then true
  else if code == 0x200C then
    endsVowelless before || (joinsTo joinsAfter before && joinsTo joinsBefore after)
  else if code == 0x200D then endsVowelless before
  else if code == 0xB7 then before.head? == some 0x6C && after.head? == some 0x6C
  else if code == 0x375 then after.head?.any greek.contains
  else if code == 0x5F3 || code == 0x5F4 then before.head?.any hebrew.contains
  else if code == 0x30FB then others.any japanese.contains
  else if isArabicDigit code then !others.any isPersianDigit
  else if isPersianDigit code then !others.any isArabicDigit
  else false

/-- Whether all characters of a text may stand where they are. -/
def allFit (before : List Nat) : List Nat → Bool
  | [] => true
  | code :: rest => fits before code rest && allFit (code :: before) rest

end Observance.Simulation.HostName

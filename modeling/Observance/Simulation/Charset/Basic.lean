import Observance.Simulation.Charset.Escaped
import Observance.Simulation.Charset.Iso2022
import Observance.Simulation.Charset.Table.SingleByte
import Observance.Simulation.Charset.Unicode
import Observance.Simulation.Charset.Utf7

/-! # Character sets

A character set says which characters bytes stand for. Bytes without a character are faults, which
are replaced when a text is read leniently.
-/

namespace Observance.Simulation

open Observance.Text

/-- A way to keep characters in bytes. -/
inductive Charset where
  | ascii
  | latin1
  /-- A set of one byte, by the characters of the last bytes. -/
  | single (last : String)
  | utf7
  | utf8
  /-- UTF-8 that a mark may precede. -/
  | utf8Marked
  /-- UTF-16 in the given order of bytes, or in the one that a mark says. -/
  | utf16 (isBig : Option Bool)
  /-- UTF-32 in the given order of bytes, or in the one that a mark says. -/
  | utf32 (isBig : Option Bool)
  | gb2312
  | gbk
  | gb18030
  | hz
  | big5
  | big5Windows
  | big5HongKong
  | eucKr
  | uhc
  | johab
  | shiftJis
  | windows932
  | shiftJis0213 (edition : Charset.Edition)
  | eucJp
  | eucJis (edition : Charset.Edition)
  | designated (variant : Charset.Iso2022)
  | escaped
  | rawEscaped
deriving Repr

namespace Charset

def ofSingle (last : String) (byte : UInt8) : Option Char :=
  let characters := last.toList
  let kept := 0x100 - characters.length
  if byte.toNat < kept then some (.ofNat byte.toNat)
  else (characters[byte.toNat - kept]?).filter (· ≠ Utf8.replacement)

/-- The units of a set with ASCII and with characters of two bytes. -/
def unitsDouble (characters : Nat → List Char) : Bytes → Units :=
  unitsBy (Step.asciiOr (Step.double characters))

/-- The characters of bytes, with `none` for each fault. -/
def units : Charset → Bytes → Units
  | .ascii, bytes => bytes.map fun byte =>
    if byte < 0x80 then some (.ofNat byte.toNat) else none
  | .latin1, bytes => bytes.map fun byte => some (.ofNat byte.toNat)
  | .single last, bytes => bytes.map fun byte => (ofSingle last byte).map .char
  | .utf7, bytes => Utf7.units bytes
  | .utf8, bytes => (Utf8.units bytes).map (·.map .char)
  | .utf8Marked, bytes =>
    (Utf8.units (if [0xEF, 0xBB, 0xBF].isPrefixOf bytes then bytes.drop 3 else bytes)).map
      (·.map .char)
  | .utf16 (some isBig), bytes => units16 isBig bytes
  | .utf16 none, bytes => unitsMarked [0xFF, 0xFE] [0xFE, 0xFF] units16 bytes
  | .utf32 (some isBig), bytes => units32 isBig bytes
  | .utf32 none, bytes => unitsMarked [0xFF, 0xFE, 0, 0] [0, 0, 0xFE, 0xFF] units32 bytes
  | .gb2312, bytes => unitsDouble ofGb2312 bytes
  | .gbk, bytes => unitsDouble ofGbk bytes
  | .gb18030, bytes => unitsBy (Step.asciiOr stepGb18030) bytes
  | .hz, bytes => unitsFrom stepHz false bytes
  | .big5, bytes => unitsDouble ofBig5 bytes
  | .big5Windows, bytes => unitsDouble ofBig5Windows bytes
  | .big5HongKong, bytes => unitsDouble ofBig5HongKong bytes
  | .eucKr, bytes => unitsBy (Step.asciiOr stepEucKr) bytes
  | .uhc, bytes => unitsDouble ofUhc bytes
  | .johab, bytes => unitsDouble ofJohab bytes
  | .shiftJis, bytes => unitsBy (Step.asciiOr stepShiftJis) bytes
  | .windows932, bytes => unitsBy (Step.asciiOr stepWindows932) bytes
  | .shiftJis0213 edition, bytes => unitsBy (stepShiftJis0213 edition) bytes
  | .eucJp, bytes => unitsBy (Step.asciiOr stepEucJp) bytes
  | .eucJis edition, bytes => unitsBy (Step.asciiOr (stepEucJis edition)) bytes
  | .designated variant, bytes => variant.units bytes
  | .escaped, bytes => unitsBy Escaped.step bytes
  | .rawEscaped, bytes => unitsBy Escaped.stepRaw bytes

/-- Decodes bytes and replaces faults. -/
def decodeReplacing (charset : Charset) (bytes : Bytes) : Text :=
  (charset.units bytes).map (·.getD Utf8.replacement)

def decode? (charset : Charset) (bytes : Bytes) : Option Text :=
  (charset.units bytes).mapM id

end Charset

end Observance.Simulation

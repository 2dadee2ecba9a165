import Observance.Simulation.Charset.Basic
import Observance.Simulation.Charset.Table.Aliases
import Observance.Text.Case
import Observance.Simulation.Punycode

/-! # Names of character sets

A name is in letters of either case, and its parts may be separated by anything. Besides character
sets, it may name an encoding of a whole text, or one that is there to be refused.
-/

namespace Observance.Simulation

open Observance.Text

/-- What a name of a character set stands for. -/
inductive Encoding where
  | charset (charset : Charset)
  | punycode
  /-- An encoding that is not used for reading, and why. -/
  | refused (name reason : String)
deriving Repr

/-- Why a text cannot be read even leniently. -/
inductive EncodingError where
  /-- The encoding is refused. -/
  | refused (name reason : String)
  /-- A byte is not in ASCII where only ASCII can be. -/
  | notAscii (byte position : Nat)
  /-- The name of the character set has a null character. -/
  | nullInName
deriving Repr, DecidableEq

namespace EncodingError

def message : EncodingError → Text
  | .refused name reason => s!"decoding with '{name}' codec failed (UnicodeError: {reason})"
  | .notAscii byte position =>
    "'ascii' codec can't decode byte 0x" ++ paddedHex 2 byte ++
      s!" in position {position}: ordinal not in range(128)"
  | .nullInName => "embedded null character"

def kind : EncodingError → String
  | .refused .. => "UnicodeError"
  | .notAscii .. => "UnicodeDecodeError"
  | .nullInName => "ValueError"

end EncodingError

namespace Charset

def countsInName (c : CodePoint) : Bool := isAsciiLetter c || isAsciiDigit c || c == '.'

/-- The parts of a name between characters that do not count. -/
def nameParts : Text → List Text
  | [] => [[]]
  | c :: rest =>
    if countsInName c then
      match nameParts rest with
      | [] => [[c]]
      | part :: parts => (asciiLower c :: part) :: parts
    else [] :: nameParts rest

/-- A name in small letters with one low line between its parts. -/
def normalizedName (name : Text) : String :=
  "_".intercalate (((nameParts name).filter (!·.isEmpty)).map fun part =>
    String.ofList (part.filterMap (·.char?)))

/-- The usual name of a character set of the given name, in which dots count as low lines if that
gives a known name. -/
def usualName (name : String) : String :=
  let usual? (name : String) := (Table.charsetAliases.find? (·.2.contains name)).map (·.1)
  ((usual? name).or (usual? (name.map fun c => if c == '.' then '_' else c))).getD name

/-- The character set of a usual name. -/
def ofUsualName? : String → Option Charset
  | "ascii" => some .ascii
  | "latin_1" | "charmap" => some .latin1
  | "utf_7" => some .utf7
  | "utf_8" => some .utf8
  | "utf_8_sig" => some .utf8Marked
  | "utf_16" => some (.utf16 none)
  | "utf_16_le" => some (.utf16 (some false))
  | "utf_16_be" => some (.utf16 (some true))
  | "utf_32" => some (.utf32 none)
  | "utf_32_le" => some (.utf32 (some false))
  | "utf_32_be" => some (.utf32 (some true))
  | "gb2312" => some .gb2312
  | "gbk" => some .gbk
  | "gb18030" => some .gb18030
  | "hz" => some .hz
  | "big5" => some .big5
  | "cp950" => some .big5Windows
  | "big5hkscs" => some .big5HongKong
  | "euc_kr" => some .eucKr
  | "cp949" => some .uhc
  | "johab" => some .johab
  | "shift_jis" => some .shiftJis
  | "cp932" => some .windows932
  | "shift_jisx0213" => some (.shiftJis0213 .of2000)
  | "shift_jis_2004" => some (.shiftJis0213 .of2004)
  | "euc_jp" => some .eucJp
  | "euc_jisx0213" => some (.eucJis .of2000)
  | "euc_jis_2004" => some (.eucJis .of2004)
  | "iso2022_jp" => some (.designated .japanese)
  | "iso2022_jp_1" => some (.designated .japanese1)
  | "iso2022_jp_2" => some (.designated .japanese2)
  | "iso2022_jp_3" => some (.designated (.japanesePlanes .of2000))
  | "iso2022_jp_2004" => some (.designated (.japanesePlanes .of2004))
  | "iso2022_jp_ext" => some (.designated .japaneseExtended)
  | "iso2022_kr" => some (.designated .korean)
  | "unicode_escape" => some .escaped
  | "raw_unicode_escape" => some .rawEscaped
  | name => (Table.byteTables.lookup name).map (.single <| String.join ·)

/-- The character set that the first bytes of a JSON document show: a mark, or the places of the
zero bytes of its first characters, which are ASCII. -/
def ofJsonBytes? (bytes : Bytes) : Option Charset :=
  let sample := bytes.take 4
  if sample == [0xFF, 0xFE, 0, 0] || sample == [0, 0, 0xFE, 0xFF] then some (.utf32 none)
  else if sample.take 3 == [0xEF, 0xBB, 0xBF] then some .utf8Marked
  else if sample.take 2 == [0xFF, 0xFE] || sample.take 2 == [0xFE, 0xFF] then some (.utf16 none)
  else match sample.map (· == 0) with
    | [true, false, true, false] => some (.utf16 (some true))
    | [false, true, false, true] => some (.utf16 (some false))
    | [true, true, true, false] => some (.utf32 (some true))
    | [false, true, true, true] => some (.utf32 (some false))
    | zeros => if zeros.contains true then none else some .utf8

end Charset

namespace Encoding

def ofName? (name : Text) : Option Encoding :=
  match Charset.usualName (Charset.normalizedName name) with
  | "punycode" => some .punycode
  | "idna" => some (.refused "idna" "Unsupported error handling replace")
  | "undefined" => some (.refused "undefined" "undefined encoding")
  | usual => (Charset.ofUsualName? usual).map .charset

def readAscii (position : Nat) : Bytes → Except EncodingError Text
  | [] => .ok []
  | byte :: rest =>
    if byte < 0x80 then (readAscii (position + 1) rest).map (.ofNat byte.toNat :: ·)
    else .error (.notAscii byte.toNat position)

/-- Decodes a text in Punycode: what is before the last hyphen is read leniently, and what is after
it has to be ASCII. -/
def decodePunycode (bytes : Bytes) : Except EncodingError Text := do
  let afterHyphen := (bytes.reverse.takeWhile (· ≠ 0x2D)).reverse
  let digits ← readAscii 0 afterHyphen
  let plain := bytes.take (bytes.length - afterHyphen.length - 1)
  return Punycode.decode (Charset.ascii.decodeReplacing plain) digits

/-- Decodes bytes leniently. -/
def decodeReplacing : Encoding → Bytes → Except EncodingError Text
  | .charset set, bytes => .ok (set.decodeReplacing bytes)
  | .punycode, bytes => decodePunycode bytes
  | .refused name reason, _ => .error (.refused name reason)

/-- The text of bytes in the encoding of a name; in UTF-8 if there is no such encoding, or none is
named. -/
def textOf (name : Option Text) (bytes : Bytes) : Except EncodingError Text :=
  if bytes.isEmpty then .ok []
  else if (name.getD "").contains '\x00' then .error .nullInName
  else ((name.bind ofName?).getD (.charset .utf8)).decodeReplacing bytes

end Encoding

end Observance.Simulation

import Observance.Text.Quoted

/-! # UTF-8

Text is kept in bytes by the encoding UTF-8. Bytes that encode no text are either refused, with the
place and the kind of the first fault, or replaced: each longest beginning of an encoded character,
and each byte that cannot begin one, gives one replacement character.
-/

namespace Observance.Text

/-- Bytes, as files and responses hold them. -/
abbrev Bytes := List UInt8

namespace Utf8

/-- What is wrong with bytes that do not begin an encoded character. -/
inductive Fault where
  /-- The first byte begins no character. -/
  | start
  /-- A further byte does not continue the character. -/
  | continuation
  /-- The bytes end within the character. -/
  | unfinished
deriving Repr, DecidableEq

def Fault.message : Fault → String
  | .start => "invalid start byte"
  | .continuation => "invalid continuation byte"
  | .unfinished => "unexpected end of data"

/-- The bits that a first byte contributes, and the bounds of the bytes that have to follow it.
Narrower bounds on the second byte exclude codes that a shorter form could hold, halves of pairs,
and codes beyond the last plane. -/
def lead? (byte : Nat) : Option (Nat × List (Nat × Nat)) :=
  if byte < 0x80 then some (byte, [])
  else if byte < 0xC2 then none
  else if byte < 0xE0 then some (byte - 0xC0, [(0x80, 0xBF)])
  else if byte = 0xE0 then some (0, [(0xA0, 0xBF), (0x80, 0xBF)])
  else if byte = 0xED then some (0xD, [(0x80, 0x9F), (0x80, 0xBF)])
  else if byte < 0xF0 then some (byte - 0xE0, [(0x80, 0xBF), (0x80, 0xBF)])
  else if byte = 0xF0 then some (0, [(0x90, 0xBF), (0x80, 0xBF), (0x80, 0xBF)])
  else if byte < 0xF4 then some (byte - 0xF0, [(0x80, 0xBF), (0x80, 0xBF), (0x80, 0xBF)])
  else if byte = 0xF4 then some (4, [(0x80, 0x8F), (0x80, 0xBF), (0x80, 0xBF)])
  else none

/-- The outcome of decoding one character: it or a fault, the number of further bytes that belong
to it, and the bytes after those. -/
inductive Step where
  | char (c : Char) (further : Nat) (rest : Bytes)
  | fault (kind : Fault) (further : Nat) (rest : Bytes)
deriving Repr

def continueWith (code further : Nat) : List (Nat × Nat) → Bytes → Step
  | [], rest => .char (Char.ofNat code) further rest
  | _ :: _, [] => .fault .unfinished further []
  | (low, high) :: bounds, byte :: rest =>
    if low ≤ byte.toNat ∧ byte.toNat ≤ high then
      continueWith (code * 0x40 + (byte.toNat - 0x80)) (further + 1) bounds rest
    else .fault .continuation further (byte :: rest)

def step (byte : UInt8) (rest : Bytes) : Step :=
  match lead? byte.toNat with
  | none => .fault .start 0 rest
  | some (code, bounds) => continueWith code 0 bounds rest

def Step.rest : Step → Bytes
  | .char _ _ rest => rest
  | .fault _ _ rest => rest

theorem continueWith_rest_length (code further : Nat) (bounds : List (Nat × Nat))
    (bytes : Bytes) : (continueWith code further bounds bytes).rest.length ≤ bytes.length := by
  induction bounds generalizing code further bytes with
  | nil => simp [continueWith, Step.rest]
  | cons bound bounds ih =>
    cases bytes with
    | nil => simp [continueWith, Step.rest]
    | cons byte rest =>
      simp only [continueWith]
      split
      · exact Nat.le_trans (ih _ _ _) (by simp)
      · simp [Step.rest]

theorem step_rest_length (byte : UInt8) (rest : Bytes) :
    (step byte rest).rest.length ≤ rest.length := by
  unfold step
  split
  · simp [Step.rest]
  · exact continueWith_rest_length _ _ _ _

/-- The characters of bytes, with `none` for each fault. -/
def units : Bytes → List (Option Char)
  | [] => []
  | byte :: bytes =>
    match _stepped : step byte bytes with
    | .char c _ rest => some c :: units rest
    | .fault _ _ rest => none :: units rest
termination_by bytes => bytes.length
decreasing_by
  all_goals
    have shorter := step_rest_length byte bytes
    simp only [_stepped, Step.rest] at shorter
    simp only [List.length_cons]
    omega

def replacement : Char := '\uFFFD'

/-- Decodes bytes and replaces faults. -/
def decodeReplacing (bytes : Bytes) : Text := ofChars ((units bytes).map (·.getD replacement))

/-- Why bytes encode no text. -/
structure Error where
  fault : Fault
  /-- The number of bytes before the fault. -/
  position : Nat
  /-- The first byte of the fault. -/
  byte : Nat
  /-- The number of further bytes of the fault. -/
  further : Nat
deriving Repr, DecidableEq

def Error.message (error : Error) : Text :=
  let place : Text :=
    if error.further = 0 then "byte 0x" ++ paddedHex 2 error.byte ++
      s!" in position {error.position}"
    else s!"bytes in position {error.position}-{error.position + error.further}"
  "'utf-8' codec can't decode " ++ place ++ s!": {error.fault.message}"

/-- Decodes bytes that follow `position` others. -/
def decodeFrom (position : Nat) : Bytes → Except Error (List Char)
  | [] => .ok []
  | byte :: bytes =>
    match _stepped : step byte bytes with
    | .char c further rest =>
      match decodeFrom (position + further + 1) rest with
      | .ok characters => .ok (c :: characters)
      | .error error => .error error
    | .fault fault further _ => .error { fault, position, byte := byte.toNat, further }
termination_by bytes => bytes.length
decreasing_by
  have shorter := step_rest_length byte bytes
  simp only [_stepped, Step.rest] at shorter
  simp only [List.length_cons]
  omega

/-- Decodes bytes. -/
def decode (bytes : Bytes) : Except Error Text := (decodeFrom 0 bytes).map ofChars

/-- Encodes a code point. A half is encoded as if it were a character, which no decoder accepts. -/
def encodePoint : CodePoint → Bytes
  | .char c => String.utf8EncodeChar c
  | .half index => [0xED, UInt8.ofNat (0xA0 + index / 0x40), UInt8.ofNat (0x80 + index % 0x40)]

/-- Encodes a text, its halves included. -/
def encode (text : Text) : Bytes := text.flatMap encodePoint

/-- Why a text cannot be encoded: some of its code points are halves, and the first run of them is
reported. -/
structure EncodingError where
  /-- The first half. -/
  point : CodePoint
  /-- The number of code points before it. -/
  position : Nat
  /-- The number of halves that follow it. -/
  further : Nat
deriving Repr, DecidableEq

def EncodingError.message (error : EncodingError) : Text :=
  let place : Text :=
    if error.further = 0 then
      "character '" ++ escapeCode error.point.toNat ++ s!"' in position {error.position}"
    else s!"characters in position {error.position}-{error.position + error.further}"
  "'utf-8' codec can't encode " ++ place ++ ": surrogates not allowed"

def EncodingError.kind : String := "UnicodeEncodeError"

/-- Why a text cannot be encoded, if it cannot. -/
def encodingError? (text : Text) : Option EncodingError :=
  let isHalf (point : CodePoint) : Bool := point.char?.isNone
  match text.dropWhile (!isHalf ·) with
  | [] => none
  | point :: rest =>
    some {
      point
      position := (text.takeWhile (!isHalf ·)).length
      further := (rest.takeWhile isHalf).length }

end Utf8

end Observance.Text

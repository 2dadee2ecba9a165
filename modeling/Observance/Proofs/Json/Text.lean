import Observance.Json.Reader
import Observance.Json.Writer
import Observance.Proofs.Text.CodePoint
import Observance.Proofs.Text.Digits

/-! # Texts that are read back

A text value that was written is read back whole, whatever its characters are and whether or not
they were escaped. Code points are read one after another, so the law about a text follows from one
about a code point. An escaped code point needs a further character behind it, which is at least the
closing quote. There is one exception: the escapes of a first and a second half in a row are read as
the character that the pair stands for.
-/

namespace Observance.Json

open Observance.Text

theorem hexCode?_digits {code : Nat} (bound : code < 0x10000) :
    hexCode? (Nat.digitChar (code / 0x1000)) (Nat.digitChar (code / 0x100 % 16))
      (Nat.digitChar (code / 16 % 16)) (Nat.digitChar (code % 16)) = some code := by
  simp only [hexCode?, hexValue?_digitChar _ (show code / 0x1000 < 16 by omega),
    hexValue?_digitChar _ (show code / 0x100 % 16 < 16 by omega),
    hexValue?_digitChar _ (show code / 16 % 16 < 16 by omega),
    hexValue?_digitChar _ (show code % 16 < 16 by omega)]
  change some _ = some _
  congr 1
  omega

/-- What follows is not the escape of a second half. -/
def NoLowHalf (input : Text) : Prop :=
  ∃ found, readLowHalf input = .ok found ∧
    ∀ low rest, found = some (low, rest) → ¬ (0xDC00 ≤ low ∧ low ≤ 0xDFFF)

/-- A code escape is read by its code, unless that is a first half with a second half behind it. -/
theorem readCodeEscape_single {code : Nat} (next : CodePoint) (rest : Text)
    (bound : code < 0x10000)
    (single : 0xD800 ≤ code ∧ code ≤ 0xDBFF → NoLowHalf (next :: rest)) :
    readCodeEscape (.char 'u' :: paddedHex 4 code ++ next :: rest) =
      .ok (.ofNat code, next :: rest) := by
  rw [paddedHex_four bound]
  simp only [List.cons_append, List.nil_append, readCodeEscape, hexCode?_digits bound]
  split
  next high =>
    obtain ⟨found, read, apart⟩ := single (by simpa using high)
    rw [read]
    match found with
    | none => rfl
    | some (low, after) =>
      have apart := apart low after rfl
      simp only
      rw [if_neg (by simpa using apart)]
  next => rfl

theorem readLowHalf_escapeUnit {code : Nat} (next : CodePoint) (rest : Text)
    (bound : code < 0x10000) :
    readLowHalf (escapeUnit code ++ next :: rest) = .ok (some (code, next :: rest)) := by
  simp only [escapeUnit, paddedHex_four bound, List.cons_append, List.nil_append, readLowHalf,
    hexCode?_digits bound]

/-- The escapes of both halves of a pair are read as one character. -/
theorem readCodeEscape_pair (high low : Nat) (next : CodePoint) (rest : Text)
    (isHigh : 0xD800 ≤ high ∧ high ≤ 0xDBFF) (isLow : 0xDC00 ≤ low ∧ low ≤ 0xDFFF) :
    readCodeEscape (.char 'u' :: paddedHex 4 high ++ (escapeUnit low ++ next :: rest)) =
      .ok (charOfPair high low, next :: rest) := by
  have second := readLowHalf_escapeUnit next rest (show low < 0x10000 by omega)
  rw [paddedHex_four (show high < 0x10000 by omega)]
  rw [escapeUnit, List.cons_append] at second ⊢
  simp only [List.cons_append, List.nil_append, readCodeEscape,
    hexCode?_digits (show high < 0x10000 by omega)]
  rw [if_pos (by simpa using isHigh)]
  simp only [List.cons_append] at second
  rw [second]
  simp only
  rw [if_pos (by simpa using isLow)]

private theorem readEscape_unit (opening : Text) {point : CodePoint} (next : CodePoint)
    (rest : Text) (basic : point.toNat < 0x10000)
    (apart : point.isHigh = true → NoLowHalf (next :: rest)) :
    readEscape opening (.char 'u' :: paddedHex 4 point.toNat ++ next :: rest) =
      .ok (point, next :: rest) := by
  have read := readCodeEscape_single next rest basic fun high =>
    apart (CodePoint.isHigh_iff.mpr high)
  rw [CodePoint.ofNat_toNat] at read
  exact read

private theorem readEscape_pair (opening : Text) {point : CodePoint} {offset : Nat}
    (next : CodePoint) (rest : Text) (beyond : point.toNat = 0x10000 + offset)
    (bound : offset < 0x100000) :
    readEscape opening (.char 'u' :: paddedHex 4 (0xD800 + offset / 0x400) ++
      (escapeUnit (0xDC00 + offset % 0x400) ++ next :: rest)) = .ok (point, next :: rest) := by
  have read := readCodeEscape_pair (0xD800 + offset / 0x400) (0xDC00 + offset % 0x400) next rest
    (by omega) (by omega)
  have whole : 0x10000 + offset / 0x400 * 0x400 + offset % 0x400 = point.toNat := by omega
  rw [charOfPair, Nat.add_sub_cancel_left, Nat.add_sub_cancel_left, whole,
    CodePoint.ofNat_toNat] at read
  exact read

/-- A code point that is escaped by its code is read back. -/
theorem readEscape_codePoint (opening : Text) (point next : CodePoint) (rest : Text)
    (apart : point.isHigh = true → NoLowHalf (next :: rest)) :
    ∃ escape, escapeCodePoint point.toNat = .char '\\' :: escape ∧
      readEscape opening (escape ++ next :: rest) = .ok (point, next :: rest) := by
  by_cases basic : point.toNat < 0x10000
  · refine ⟨_, ?_, readEscape_unit opening next rest basic apart⟩
    rw [escapeCodePoint, if_pos basic, escapeUnit]
  · obtain ⟨offset, beyond⟩ := Nat.exists_eq_add_of_le (Nat.le_of_not_lt basic)
    have bound := point.toNat_lt
    have read := readEscape_pair opening next rest beyond (by omega)
    rw [← List.append_assoc] at read
    refine ⟨_, ?_, read⟩
    rw [escapeCodePoint, if_neg basic, beyond, Nat.add_sub_cancel_left]
    rfl

/-- Only a second half is written as the escape of one. -/
theorem noLowHalf_writeChar (asciiOnly : Bool) {point : CodePoint} (next : CodePoint) (rest : Text)
    (notLow : point.isLow = false) : NoLowHalf (writeChar asciiOnly point ++ next :: rest) := by
  have single : ∀ c, c ≠ .char '\\' → NoLowHalf (c :: next :: rest) := by
    intro c notBackslash
    refine ⟨none, ?_, by simp⟩
    rw [readLowHalf]
    intro _ _ _ _ _ _ same
    exact absurd (List.head_eq_of_cons_eq same) notBackslash
  have letter : ∀ c, c ≠ .char 'u' → NoLowHalf (.char '\\' :: c :: next :: rest) := by
    intro c notCode
    refine ⟨none, ?_, by simp⟩
    rw [readLowHalf]
    intro _ _ _ _ _ _ same
    simp only [List.cons.injEq, true_and] at same
    exact absurd same.1 notCode
  unfold writeChar
  split
  iterate 7 exact letter _ (by decide)
  next notQuote notBackslash _ _ _ _ _ =>
    split
    next =>
      unfold escapeCodePoint
      split
      next basic =>
        refine ⟨_, readLowHalf_escapeUnit next rest basic, fun low after same isLow => ?_⟩
        cases same
        rw [CodePoint.isLow_iff.mpr isLow] at notLow
        cases notLow
      next =>
        have bound := point.toNat_lt
        obtain ⟨middle, after, follows⟩ : ∃ middle after,
            escapeUnit (0xDC00 + (point.toNat - 0x10000) % 0x400) ++ next :: rest =
              middle :: after := List.exists_cons_of_ne_nil (by simp)
        rw [List.append_assoc, follows]
        refine ⟨_, readLowHalf_escapeUnit middle after (by omega), fun low after same isLow => ?_⟩
        cases same
        omega
    next => exact single point notBackslash

private theorem readCharacters_escape (escape : Text)
    {opening characters rest remaining : Text} {c next : CodePoint}
    (escaped : readEscape opening (escape ++ next :: rest) = .ok (c, next :: rest))
    (success : readCharacters opening (next :: rest) = .ok (characters, remaining)) :
    readCharacters opening (.char '\\' :: escape ++ next :: rest) =
      .ok (c :: characters, remaining) := by
  rw [List.cons_append, readCharacters]
  split
  next error failed => rw [escaped] at failed; cases failed
  next c' after read =>
    rw [escaped] at read
    cases read
    rw [success]

private theorem readCharacters_plain {opening characters rest remaining : Text}
    {c : CodePoint} (notQuote : c ≠ '"') (notBackslash : c ≠ '\\') (visible : ¬ c < ' ')
    (success : readCharacters opening rest = .ok (characters, remaining)) :
    readCharacters opening (c :: rest) = .ok (c :: characters, remaining) := by
  rw [readCharacters, if_neg visible, success]
  · exact notQuote
  · exact notBackslash

/-- A code point that was written is the next that is read. -/
theorem readCharacters_writeChar {opening characters rest remaining : Text}
    (asciiOnly : Bool) (point next : CodePoint)
    (apart : asciiOnly = true → point.isHigh = true → NoLowHalf (next :: rest))
    (success : readCharacters opening (next :: rest) = .ok (characters, remaining)) :
    readCharacters opening (writeChar asciiOnly point ++ next :: rest) =
      .ok (point :: characters, remaining) := by
  unfold writeChar
  split
  -- The seven characters with an escape of one letter.
  iterate 7 exact readCharacters_escape [_] rfl success
  next notQuote notBackslash _ _ _ _ _ =>
    split
    next escaped =>
      have apart : point.isHigh = true → NoLowHalf (next :: rest) := by
        intro high
        have notControl : ¬ point < .char ' ' := by
          have code := (CodePoint.isHigh_iff.mp high).1
          exact Nat.not_lt.mpr (Nat.le_trans (by decide) code)
        have ascii : asciiOnly = true := by
          cases asciiOnly with
          | true => rfl
          | false => simp [notControl] at escaped
        exact apart ascii high
      obtain ⟨escape, written, read⟩ := readEscape_codePoint opening point next rest apart
      rw [written]
      exact readCharacters_escape escape read success
    next visible =>
      have visible : ¬ point < .char ' ' := fun control => visible (by simp [control])
      exact readCharacters_plain notQuote notBackslash visible success

/-- Whether a text is read back after it was written: an escaped one without pairs of halves, and
every other one. -/
def isKept (asciiOnly : Bool) (value : Text) : Bool := !asciiOnly || value.isUnpaired

/-- A text that was written is read back up to its closing quote. -/
theorem readCharacters_writeChars (asciiOnly : Bool) (opening : Text) {characters : Text}
    (rest : Text) (kept : isKept asciiOnly characters = true) :
    readCharacters opening (characters.flatMap (writeChar asciiOnly) ++ .char '"' :: rest) =
      .ok (characters, rest) := by
  induction characters with
  | nil => simp [readCharacters]
  | cons point characters ih =>
    have keptAfter : isKept asciiOnly characters = true := by
      cases asciiOnly with
      | false => rfl
      | true => exact isUnpaired_of_cons kept
    have apart : asciiOnly = true → point.isHigh = true →
        NoLowHalf (characters.flatMap (writeChar asciiOnly) ++ .char '"' :: rest) := by
      intro ascii high
      cases characters with
      | nil => exact ⟨none, by simp [readLowHalf], by simp⟩
      | cons second characters =>
        have notLow : second.isLow = false := by
          rw [ascii] at kept
          simp only [isKept, isUnpaired, Bool.not_true, Bool.false_or, Bool.and_eq_true,
            Bool.not_eq_true'] at kept
          simpa [high] using kept.1
        obtain ⟨next, after, follows⟩ : ∃ next after,
            characters.flatMap (writeChar asciiOnly) ++ .char '"' :: rest = next :: after :=
          List.exists_cons_of_ne_nil (by simp)
        rw [List.flatMap_cons, List.append_assoc, follows]
        exact noLowHalf_writeChar asciiOnly next after notLow
    -- What follows the code point is not empty: it begins with another one, or with the quote.
    obtain ⟨next, after, follows⟩ : ∃ next after,
        characters.flatMap (writeChar asciiOnly) ++ .char '"' :: rest = next :: after :=
      List.exists_cons_of_ne_nil (by simp)
    have read := ih keptAfter
    rw [List.flatMap_cons, List.append_assoc, follows]
    rw [follows] at read apart
    exact readCharacters_writeChar asciiOnly point next apart read

/-- A text value that was written is read back. -/
theorem readText_writeText (asciiOnly : Bool) {value : Text} (rest : Text)
    (kept : isKept asciiOnly value = true) :
    ∃ characters, writeText asciiOnly value ++ rest = .char '"' :: characters ∧
      readText characters = .ok (value, rest) := by
  refine ⟨_, by rw [writeText, List.append_assoc, List.cons_append], ?_⟩
  simp only [readText, List.singleton_append, readCharacters_writeChars _ _ _ kept]

end Observance.Json

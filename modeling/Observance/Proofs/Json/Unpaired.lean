import Mathlib.Data.List.TakeDrop
import Observance.Proofs.Json.Text

/-! # Texts that are read have no pairs of halves

A document of characters only can still name halves, by their escapes. But the escapes of a first
and a second half in a row are read as one character, so in a text that is read from such a document
no first half stands directly before a second one. What is left to be read after a part of a
document is the end of it, and so has characters only again.
-/

namespace Observance.Json

open Text

variable {opening input rest : Text} {point : CodePoint}

section Rest

theorem skipSpace_suffix (input : Text) : skipSpace input <:+ input := List.dropWhile_suffix _

theorem readLowHalf_suffix {code : Nat} (success : readLowHalf input = .ok (some (code, rest))) :
    rest <:+ input := by
  unfold readLowHalf at success
  split at success
  · split at success
    · cases success
      exact ⟨[_, _, _, _, _, _], rfl⟩
    · cases success
  · cases success

theorem readCodeEscape_suffix (success : readCodeEscape input = .ok (point, rest)) :
    rest <:+ input := by
  unfold readCodeEscape at success
  split at success
  next first a b c d next after =>
    have follows : next :: after <:+ first :: a :: b :: c :: d :: next :: after :=
      ⟨[first, a, b, c, d], rfl⟩
    have ofEq {one : CodePoint} {after' : Text}
        (success : (Except.ok (one, after') : Except ReadError _) = .ok (point, rest)) :
        after' = rest := (Prod.mk.inj (Except.ok.inj success)).2
    split at success
    · cases success
    · split at success
      · split at success
        · cases success
        next found =>
          split at success
          · exact ofEq success ▸ (readLowHalf_suffix found).trans follows
          · exact ofEq success ▸ follows
        · exact ofEq success ▸ follows
      · exact ofEq success ▸ follows
  · cases success

theorem readEscape_suffix (success : readEscape opening input = .ok (point, rest)) :
    rest <:+ input := by
  unfold readEscape at success
  split at success
  · cases success
  · exact readCodeEscape_suffix success
  · split at success
    · cases success
      exact List.suffix_cons ..
    · cases success

theorem spanDigits_suffix (input : Text) : (spanDigits input).2 <:+ input := by
  rw [spanDigits, List.span_eq_takeWhile_dropWhile]
  exact List.dropWhile_suffix _

theorem splitWhole_suffix (input : Text) : (splitWhole input).2 <:+ input := by
  unfold splitWhole
  split
  · exact List.suffix_cons ..
  · exact spanDigits_suffix input

theorem splitMinus_suffix (input : Text) : (splitMinus input).2 <:+ input := by
  unfold splitMinus
  split
  · exact List.suffix_cons ..
  · exact List.suffix_rfl

theorem splitFraction_suffix (input : Text) : (splitFraction input).2 <:+ input := by
  unfold splitFraction
  split
  next rest =>
    dsimp only
    split
    · exact List.suffix_rfl
    · exact (spanDigits_suffix rest).trans (List.suffix_cons ..)
  · exact List.suffix_rfl

theorem splitSign_suffix (input : Text) : (splitSign input).2 <:+ input := by
  unfold splitSign
  split
  · exact List.suffix_cons ..
  · exact List.suffix_cons ..
  · exact List.suffix_rfl

theorem splitExponent_suffix (input : Text) : (splitExponent input).2 <:+ input := by
  unfold splitExponent
  split
  next mark rest =>
    split
    · dsimp only
      split
      · exact List.suffix_rfl
      · exact (spanDigits_suffix _).trans ((splitSign_suffix rest).trans (List.suffix_cons ..))
    · exact List.suffix_rfl
  · exact List.suffix_rfl

theorem readNumber_suffix {value : Json} (success : readNumber input = .ok (value, rest)) :
    rest <:+ input := by
  have whole := (splitWhole_suffix (splitMinus input).2).trans (splitMinus_suffix input)
  have decimals := (splitFraction_suffix (splitWhole (splitMinus input).2).2).trans whole
  have exponent := (splitExponent_suffix _).trans decimals
  unfold readNumber at success
  dsimp only at success
  split at success
  · cases success
  · split at success
    · split at success
      · cases success
        exact exponent
      · cases success
    · cases success
      exact exponent

theorem readPlain_suffix {value : Json} (success : readPlain input = .ok (value, rest)) :
    rest <:+ input := by
  unfold readPlain at success
  split at success
  · cases success
    exact List.drop_suffix ..
  · exact readNumber_suffix success

end Rest

theorem isWhole_of_suffix (suffix : rest <:+ input) (whole : input.isWhole = true) :
    rest.isWhole = true :=
  List.all_eq_true.mpr fun c member => List.all_eq_true.mp whole c (suffix.subset member)

/-- The text begins with the escape of a second half. -/
def BeginsLow (input : Text) : Prop :=
  ∃ low rest, readLowHalf input = .ok (some (low, rest)) ∧ 0xDC00 ≤ low ∧ low ≤ 0xDFFF

/-- A code escape that is read as a first half has no second half behind it. -/
theorem not_beginsLow_of_readCodeEscape (success : readCodeEscape input = .ok (point, rest))
    (high : point.isHigh = true) : ¬ BeginsLow rest := by
  unfold readCodeEscape at success
  split at success
  · split at success
    · cases success
    next code _ =>
      split at success
      · split at success
        · cases success
        next low after found =>
          split at success
          · obtain ⟨rfl, rfl⟩ := Prod.mk.inj (Except.ok.inj success)
            exact absurd (CodePoint.isHigh_ofNat.mp high).2 (by omega)
          next notLow =>
            obtain ⟨rfl, rfl⟩ := Prod.mk.inj (Except.ok.inj success)
            rintro ⟨low', after', found', isLow⟩
            rw [found] at found'
            cases found'
            exact notLow (by simpa using isLow)
        next found =>
          obtain ⟨rfl, rfl⟩ := Prod.mk.inj (Except.ok.inj success)
          rintro ⟨low', after', found', -⟩
          rw [found] at found'
          cases found'
      next notHigh =>
        obtain ⟨rfl, rfl⟩ := Prod.mk.inj (Except.ok.inj success)
        exact absurd (by simpa using CodePoint.isHigh_ofNat.mp high) notHigh
  · cases success

theorem char_of_shortEscape? {c meaning : CodePoint} (short : shortEscape? c = some meaning) :
    meaning.isHigh = false ∧ meaning.isLow = false := by
  unfold shortEscape? at short
  split at short <;> cases short <;> exact ⟨rfl, rfl⟩

/-- An escape that is read as a first half has no second half behind it. -/
theorem not_beginsLow_of_readEscape (success : readEscape opening input = .ok (point, rest))
    (high : point.isHigh = true) : ¬ BeginsLow rest := by
  unfold readEscape at success
  split at success
  · cases success
  · exact not_beginsLow_of_readCodeEscape success high
  · split at success
    next meaning short =>
      obtain ⟨rfl, rfl⟩ := Prod.mk.inj (Except.ok.inj success)
      rw [(char_of_shortEscape? short).1] at high
      cases high
    · cases success

/-- Only the escape of a second half is read as one. -/
theorem beginsLow_of_readEscape (success : readEscape opening input = .ok (point, rest))
    (low : point.isLow = true) : BeginsLow (.char '\\' :: input) := by
  unfold readEscape at success
  split at success
  · cases success
  next after =>
    unfold readCodeEscape at success
    split at success
    next first a b c d next after same =>
      obtain ⟨rfl, rfl⟩ := List.cons.inj same
      split at success
      · cases success
      next code hex =>
        have single (success : Except.ok (CodePoint.ofNat code, next :: after) =
            (Except.ok (point, rest) : Except ReadError _)) :
            BeginsLow (.char '\\' :: .char 'u' :: a :: b :: c :: d :: next :: after) := by
          obtain ⟨rfl, rfl⟩ := Prod.mk.inj (Except.ok.inj success)
          exact ⟨code, next :: after, by simp only [readLowHalf, hex], CodePoint.isLow_ofNat.mp low⟩
        split at success
        · split at success
          · cases success
          · split at success
            · obtain ⟨rfl, rfl⟩ := Prod.mk.inj (Except.ok.inj success)
              exact absurd (CodePoint.isLow_ofNat.mp low).2 (by omega)
            · exact single success
          · exact single success
        · exact single success
    · cases success
  · split at success
    next meaning short =>
      obtain ⟨rfl, rfl⟩ := Prod.mk.inj (Except.ok.inj success)
      rw [(char_of_shortEscape? short).2] at low
      cases low
    · cases success

/-- What is known of a text that was read from characters, and of what follows it. -/
structure ReadsUnpaired (input characters rest : Text) : Prop where
  unpaired : characters.isUnpaired = true
  low : ∀ point ∈ characters.head?, point.isLow = true → BeginsLow input
  rest : rest <:+ input

theorem ReadsUnpaired.cons {after characters : Text} (reads : ReadsUnpaired after characters rest)
    (follows : after <:+ input) (high : point.isHigh = true → ¬ BeginsLow after)
    (low : point.isLow = true → BeginsLow input) :
    ReadsUnpaired input (point :: characters) rest where
  unpaired := by
    cases characters with
    | nil => rfl
    | cons second characters =>
      simp only [isUnpaired, Bool.and_eq_true, Bool.not_eq_true', reads.unpaired, and_true]
      by_contra paired
      simp only [Bool.not_eq_false, Bool.and_eq_true] at paired
      exact high paired.1 (reads.low second rfl paired.2)
  low _ member isLow := by
    cases member
    exact low isLow
  rest := reads.rest.trans follows

/-- The text that is read from characters has no pairs of halves. -/
theorem readsUnpaired_of_readCharacters {characters : Text} (whole : input.isWhole = true)
    (success : readCharacters opening input = .ok (characters, rest)) :
    ReadsUnpaired input characters rest := by
  fun_induction readCharacters opening input generalizing characters with
  | case1 => cases success
  | case2 rest =>
    cases success
    exact ⟨rfl, nofun, List.suffix_cons ..⟩
  | case3 => cases success
  | case4 => cases success
  | case5 input point after escaped characters remaining later ih =>
    cases success
    have follows := (readEscape_suffix escaped).trans (List.suffix_cons (.char '\\') input)
    exact (ih (isWhole_of_suffix follows whole) later).cons follows
      (not_beginsLow_of_readEscape escaped) (beginsLow_of_readEscape escaped)
  | case6 => cases success
  | case7 => cases success
  | case8 point after _ _ _ characters remaining later ih =>
    cases success
    have follows := List.suffix_cons point after
    have isChar := List.all_eq_true.mp whole point (List.mem_cons_self ..)
    cases point with
    | half index => cases isChar
    | char c => exact (ih (isWhole_of_suffix follows whole) later).cons follows nofun nofun

/-- A text value that is read has no pairs of halves. -/
theorem readsUnpaired_of_readText {value : Text} (whole : input.isWhole = true)
    (success : readText input = .ok (value, rest)) : ReadsUnpaired input value rest := by
  unfold readText at success
  split at success
  · cases success
  next read =>
    cases success
    exact readsUnpaired_of_readCharacters whole read

end Observance.Json

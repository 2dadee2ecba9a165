import Observance.Proofs.Feed.Property

/-! # Which date a value gives

A value gives the date of its first eight digits in a row, whatever script they are of and whatever
stands around them, and if that is no date it gives none: digits further on do not count. So a date
is had back from its eight digits behind a text that does not run into them and has no eight digits
of its own.
-/

namespace Observance

open Calendar Text

theorem Date.ofParts?_eq_some_iff {year month day : Nat} {date : Date} :
    ofParts? year month day = some date ↔
      year = date.year ∧ month = date.month ∧ day = date.day := by
  unfold ofParts?
  constructor
  · intro success
    split at success
    · cases success
      exact ⟨rfl, rfl, rfl⟩
    · cases success
  · rintro ⟨rfl, rfl, rfl⟩
    exact dif_pos date.valid

/-- Whether eight digits denote a date: four its year, two its month and two its day. -/
def Date.IsDenotedBy (date : Date) (digits : Text) : Prop :=
  ∃ year month day : Text, digits = year ++ month ++ day ∧
    (year.length = 4 ∧ month.length = 2 ∧ day.length = 2) ∧
      digitsValue year = date.year ∧ digitsValue month = date.month ∧ digitsValue day = date.day

namespace Feed

/-- Eight digits in a row, what stands before them, and what stands after them. -/
structure EightDigits (value before digits after : Text) : Prop where
  parts : value = before ++ digits ++ after
  length : digits.length = 8
  digits : ∀ c ∈ digits, isDigit c = true

/-- The first eight digits in a row: no others begin earlier. -/
structure FirstEightDigits (value before digits after : Text) : Prop extends
    EightDigits value before digits after where
  first : ∀ {front other rest : Text},
    EightDigits value front other rest → before.length ≤ front.length

section Search

variable {value before digits after : Text} {c : CodePoint}

/-- The first eight digits in a row are the same ones wherever they are found. -/
theorem FirstEightDigits.unique {before' digits' after' : Text}
    (found : FirstEightDigits value before digits after)
    (again : FirstEightDigits value before' digits' after') : digits = digits' := by
  have place : before.length = before'.length :=
    Nat.le_antisymm (found.first again.toEightDigits) (again.first found.toEightDigits)
  have parts := found.parts.symm.trans again.parts
  rw [List.append_assoc, List.append_assoc] at parts
  obtain ⟨-, rest⟩ := List.append_inj parts place
  exact (List.append_inj rest (found.length.trans again.length.symm)).1

/-- Eight digits that nothing stands before are the front of a value. -/
theorem eightDigits_nil_iff : EightDigits value [] digits after ↔
    (digits = value.take 8 ∧ after = value.drop 8) ∧
      (value.take 8).length = 8 ∧ (value.take 8).all isDigit = true := by
  constructor
  · rintro ⟨rfl, length, ascii⟩
    have front : (digits ++ after).take 8 = digits := List.take_left' length
    have rest : (digits ++ after).drop 8 = after := List.drop_left' length
    rw [List.nil_append, front, rest]
    exact ⟨⟨rfl, rfl⟩, length, List.all_eq_true.mpr ascii⟩
  · rintro ⟨⟨rfl, rfl⟩, length, ascii⟩
    exact ⟨(List.take_append_drop 8 value).symm, length, List.all_eq_true.mp ascii⟩

theorem eightDigits_cons_iff {first : CodePoint} :
    EightDigits (c :: value) (first :: before) digits after ↔
      c = first ∧ EightDigits value before digits after := by
  constructor
  · rintro ⟨parts, length, ascii⟩
    obtain ⟨same, parts⟩ := List.cons.inj parts
    exact ⟨same, parts, length, ascii⟩
  · rintro ⟨rfl, parts, length, ascii⟩
    exact ⟨congrArg (c :: ·) parts, length, ascii⟩

/-- The first eight digits behind a character that begins none are the first of the whole. -/
theorem firstEightDigits_cons (none : ∀ other rest, ¬ EightDigits (c :: value) [] other rest) :
    FirstEightDigits (c :: value) (c :: before) digits after ↔
      FirstEightDigits value before digits after := by
  constructor
  · rintro ⟨eight, first⟩
    refine ⟨(eightDigits_cons_iff.mp eight).2, fun other => ?_⟩
    exact Nat.le_of_succ_le_succ (first (eightDigits_cons_iff.mpr ⟨rfl, other⟩))
  · rintro ⟨eight, first⟩
    refine ⟨eightDigits_cons_iff.mpr ⟨rfl, eight⟩, fun {front _ _} other => ?_⟩
    cases front with
    | nil => exact absurd other (none _ _)
    | cons _ front => exact Nat.succ_le_succ (first (eightDigits_cons_iff.mp other).2)

/-- The search finds the first eight digits. -/
theorem eightDigits?_eq_some : eightDigits? value = some digits ↔
    ∃ before after, FirstEightDigits value before digits after := by
  fun_induction eightDigits? value with
  | case1 =>
    simp only [reduceCtorEq, false_iff, not_exists]
    rintro before after ⟨⟨parts, length, -⟩, -⟩
    have short := congrArg List.length parts
    simp only [List.length_append, List.length_nil] at short
    omega
  | case2 c rest front found =>
    have begins := eightDigits_nil_iff.mpr ⟨⟨rfl, rfl⟩, found⟩
    constructor
    · intro same
      rw [← Option.some.inj same]
      exact ⟨[], _, begins, fun _ => Nat.zero_le _⟩
    · rintro ⟨before, after, eight, first⟩
      obtain rfl := List.length_eq_zero_iff.mp (Nat.le_zero.mp (first begins))
      exact congrArg some (eightDigits_nil_iff.mp eight).1.1.symm
  | case3 c rest front notFound ih =>
    have none : ∀ other after, ¬ EightDigits (c :: rest) [] other after :=
      fun _ _ eight => notFound (eightDigits_nil_iff.mp eight).2
    rw [ih]
    constructor
    · rintro ⟨before, after, first⟩
      exact ⟨c :: before, after, (firstEightDigits_cons none).mpr first⟩
    · rintro ⟨before, after, first⟩
      cases before with
      | nil => exact absurd first.toEightDigits (none _ _)
      | cons _ before =>
        obtain ⟨rfl, -⟩ := eightDigits_cons_iff.mp first.toEightDigits
        exact ⟨before, after, (firstEightDigits_cons none).mp first⟩

/-- The search finds nothing only if there are no eight digits in a row. -/
theorem not_eightDigits_of_eq_none (nothing : eightDigits? value = none) :
    ¬ EightDigits value before digits after := by
  induction before generalizing value with
  | nil =>
    intro eight
    cases value with
    | nil => simpa using (eightDigits_nil_iff.mp eight).2.1
    | cons c rest =>
      rw [eightDigits?, if_pos (eightDigits_nil_iff.mp eight).2] at nothing
      cases nothing
  | cons _ before ih =>
    intro eight
    cases value with
    | nil => simpa using eight.parts
    | cons c rest =>
      rw [eightDigits?] at nothing
      split at nothing
      · cases nothing
      · exact ih nothing (eightDigits_cons_iff.mp eight).2

/-- Digits behind a text that neither ends in a digit nor has eight in a row are the first. -/
theorem EightDigits.first (eight : EightDigits value before digits after)
    (ends : ∀ c, before.getLast? = some c → isDigit c = false)
    (none : ∀ front other rest, ¬ EightDigits before front other rest) :
    FirstEightDigits value before digits after := by
  refine ⟨eight, fun {front other rest} found => Nat.le_of_not_lt fun earlier => ?_⟩
  have same := found.parts.symm.trans eight.parts
  rw [List.append_assoc before] at same
  rcases List.append_eq_append_iff.mp same with ⟨between, isBefore, -⟩ | ⟨beyond, overlap, -⟩
  · exact none front other between ⟨isBefore, found.length, found.digits⟩
  -- The other digits reach beyond the text, so its last character is one of them.
  · rcases List.append_eq_append_iff.mp overlap with ⟨shared, isBefore, isOther⟩ | ⟨_, isFront, -⟩
    · have nonempty : shared ≠ [] := by
        rintro rfl
        rw [isBefore, List.append_nil] at earlier
        exact Nat.lt_irrefl _ earlier
      have last : before.getLast? = some (shared.getLast nonempty) := by
        rw [isBefore, List.getLast?_append, List.getLast?_eq_some_getLast nonempty, Option.some_or]
      have digit := found.digits (shared.getLast nonempty)
        (isOther ▸ List.mem_append_left _ (List.getLast_mem nonempty))
      rw [ends _ last] at digit
      cases digit
    · have := congrArg List.length isFront
      rw [List.length_append] at this
      omega

end Search

section Value

variable {date : Date} {digits : Text}

theorem dateOfDigits?_eq_some (eight : digits.length = 8) :
    dateOfDigits? digits = some date ↔ date.IsDenotedBy digits := by
  rw [dateOfDigits?, Date.ofParts?_eq_some_iff]
  constructor
  · intro denoted
    refine ⟨_, _, _, ?_, ⟨?_, ?_, ?_⟩, denoted⟩
    · rw [List.append_assoc, show 6 = 4 + 2 from rfl, ← List.drop_drop, List.take_append_drop,
        List.take_append_drop]
    all_goals simp only [List.length_take, List.length_drop]; omega
  · rintro ⟨year, month, day, rfl, ⟨years, months, days⟩, denoted⟩
    rw [List.append_assoc, List.take_left' years, List.drop_left' years, List.take_left' months,
      ← List.append_assoc, List.drop_left' (by rw [List.length_append, years, months])]
    exact denoted

theorem dateOfValue?_eq_some {value : Text} : dateOfValue? value = some date ↔
    ∃ before digits after, FirstEightDigits value before digits after ∧
      date.IsDenotedBy digits := by
  rw [dateOfValue?, Option.bind_eq_some_iff]
  constructor
  · rintro ⟨digits, found, isDate⟩
    obtain ⟨before, after, first⟩ := eightDigits?_eq_some.mp found
    exact ⟨before, digits, after, first, (dateOfDigits?_eq_some first.length).mp isDate⟩
  · rintro ⟨before, digits, after, first, denoted⟩
    exact ⟨digits, eightDigits?_eq_some.mpr ⟨before, after, first⟩,
      (dateOfDigits?_eq_some first.length).mpr denoted⟩

/-- A value gives a date exactly if its first eight digits in a row denote one, and gives that date;
where they denote none, no later ones count. So a date is had back from its digits, whatever follows
them, behind every text that neither ends in a digit nor has eight digits in a row. -/
theorem dateOfValue?_first :
    (∀ (value : Text) (date : Date), dateOfValue? value = some date ↔
      ∃ before digits after, FirstEightDigits value before digits after ∧
        date.IsDenotedBy digits) ∧
    (∀ (value before digits after : Text), FirstEightDigits value before digits after →
      ∀ date, dateOfValue? value = some date ↔ date.IsDenotedBy digits) ∧
    ∀ (date : Date) (before after : Text),
      (∀ c, before.getLast? = some c → isDigit c = false) →
      (∀ front digits rest, ¬ EightDigits before front digits rest) →
        dateOfValue? (before ++ date.digits ++ after) = some date := by
  refine ⟨fun value date => dateOfValue?_eq_some, fun value before digits after first date => ?_,
    fun date before after ends none => ?_⟩
  · rw [dateOfValue?_eq_some]
    constructor
    · rintro ⟨_, _, _, found, denoted⟩
      exact found.unique first ▸ denoted
    · exact fun denoted => ⟨before, digits, after, first, denoted⟩
  · have eight : EightDigits (before ++ date.digits ++ after) before date.digits after :=
      ⟨rfl, date.length_digits,
        fun c member => isDigit_of_isAsciiDigit (date.isAsciiDigit_of_mem_digits c member)⟩
    have denoted := (dateOfDigits?_eq_some date.length_digits).mp (dateOfDigits?_digits date)
    exact dateOfValue?_eq_some.mpr ⟨before, date.digits, after, eight.first ends none, denoted⟩

/-- Seven digits before a blank do not count, and neither does a digit behind the date; but behind
eight nines a date does not count. -/
theorem dateOfValue?_first_leapDay :
    ((∀ c, ("D=1234567 " : Text).getLast? = some c → isDigit c = false) ∧
      (∀ front digits rest, ¬ EightDigits "D=1234567 " front digits rest) ∧
        dateOfValue? ("D=1234567 " ++ Date.digits ⟨2024, 2, 29, by decide⟩ ++
          "1T120000") = some ⟨2024, 2, 29, by decide⟩) ∧
      FirstEightDigits "99999999 20240229" [] "99999999" " 20240229" ∧
        dateOfValue? "99999999 20240229" ≠ some ⟨2024, 2, 29, by decide⟩ := by
  have ends : ∀ c, ("D=1234567 " : Text).getLast? = some c → isDigit c = false := by
    rintro c ⟨⟩
    decide
  have none : ∀ front digits rest, ¬ EightDigits "D=1234567 " front digits rest :=
    fun _ _ _ => not_eightDigits_of_eq_none (by decide)
  have nines : FirstEightDigits "99999999 20240229" [] "99999999"
      " 20240229" := ⟨⟨rfl, rfl, List.all_eq_true.mp (by decide)⟩, fun _ => Nat.zero_le _⟩
  refine ⟨⟨ends, none, dateOfValue?_first.2.2 _ _ _ ends none⟩, nines, fun given => ?_⟩
  have denoted := (dateOfValue?_first.2.1 _ _ _ _ nines _).mp given
  exact absurd ((dateOfDigits?_eq_some rfl).mpr denoted) (by decide)

end Value

end Feed

end Observance

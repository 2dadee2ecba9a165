import Mathlib.Data.List.Basic
import Observance.Proofs.Calendar.DateText

/-! # The form of a date

Two checks ask whether a text is a date, and they do not ask the same. The one before publishing
looks at the form alone: four, two and two digits of any script with hyphens between them, and at
most a line feed after them. The reader of a published schedule asks for more: nothing after the
day, digits of ASCII only, and a day that the calendar has.
-/

namespace Observance

open Calendar Text

/-- Characters are four, two and two digits with hyphens between them, and what follows. -/
structure Calendar.DateForm (characters year month day rest : Text) : Prop where
  parts : characters = year ++ .char '-' :: month ++ .char '-' :: day ++ rest
  yearLength : year.length = 4
  monthLength : month.length = 2
  dayLength : day.length = 2
  digits : ∀ c ∈ year ++ month ++ day, isDigit c = true

/-- A text is the published form of a date: ten characters, of which the digits are of ASCII and
denote the year, the month and the day. -/
def Date.IsWrittenIn (date : Date) (text : Text) : Prop :=
  ∃ year month day : Text, DateForm text year month day [] ∧
    (∀ c ∈ year ++ month ++ day, isAsciiDigit c = true) ∧
      digitsValue year = date.year ∧ digitsValue month = date.month ∧ digitsValue day = date.day

namespace Calendar

variable {characters year month day rest : Text}

namespace DateForm

/-- Characters have their parts in one way only. -/
theorem unique {year' month' day' rest' : Text}
    (form : DateForm characters year month day rest)
    (other : DateForm characters year' month' day' rest') :
    year = year' ∧ month = month' ∧ day = day' ∧ rest = rest' := by
  have same := form.parts.symm.trans other.parts
  simp only [List.append_assoc, List.cons_append] at same
  obtain ⟨years, same⟩ := List.append_inj same (form.yearLength.trans other.yearLength.symm)
  obtain ⟨-, same⟩ := List.cons.inj same
  obtain ⟨months, same⟩ := List.append_inj same (form.monthLength.trans other.monthLength.symm)
  obtain ⟨-, same⟩ := List.cons.inj same
  obtain ⟨days, rests⟩ := List.append_inj same (form.dayLength.trans other.dayLength.symm)
  exact ⟨years, months, days, rests⟩

/-- What follows the form of a date may be put in place of what did. -/
theorem append (form : DateForm characters year month day []) (after : Text) :
    DateForm (characters ++ after) year month day after :=
  { form with parts := by rw [form.parts, List.append_nil] }

end DateForm

/-- The form of a date with nothing after it is its shape. -/
theorem isDateShape_iff :
    isDateShape characters = true ↔ ∃ year month day, DateForm characters year month day [] := by
  constructor
  · intro shape
    obtain ⟨y₁, y₂, y₃, y₄, m₁, m₂, d₁, d₂, rfl, digits⟩ := Date.exists_of_isDateShape shape
    exact ⟨[y₁, y₂, y₃, y₄], [m₁, m₂], [d₁, d₂], rfl, rfl, rfl, rfl, digits⟩
  · rintro ⟨year, month, day, rfl, yearLength, monthLength, dayLength, digits⟩
    match year, month, day, yearLength, monthLength, dayLength with
    | [y₁, y₂, y₃, y₄], [m₁, m₂], [d₁, d₂], _, _, _ => simpa [isDateShape] using digits

/-- A text has the shape of a date exactly if it has the form of one, and at most a line feed after
it. -/
theorem hasDateShape_iff {text : Text} :
    hasDateShape text = true ↔ ∃ year month day rest, DateForm text year month day rest ∧
      (rest = [] ∨ rest = [.char '\n']) := by
  simp only [hasDateShape, Bool.or_eq_true, Bool.and_eq_true, isDateShape_iff, beq_iff_eq]
  constructor
  · rintro (⟨year, month, day, form⟩ | ⟨lineFeed, year, month, day, form⟩)
    · exact ⟨year, month, day, [], form, .inl rfl⟩
    · have ended := List.dropLast_append_getLast? (CodePoint.char '\n') lineFeed
      exact ⟨year, month, day, [.char '\n'], ended ▸ form.append [.char '\n'], .inr rfl⟩
  · rintro ⟨year, month, day, rest, form, rfl | rfl⟩
    · exact .inl ⟨year, month, day, form⟩
    · refine .inr ⟨?_, year, month, day, ?_⟩
      · rw [form.parts, List.getLast?_append]
        rfl
      · rw [form.parts, List.dropLast_concat]
        exact { form with parts := (List.append_nil _).symm }

end Calendar

namespace Date

/-- Dates are written with digits of ASCII. -/
theorem isAsciiDigit_of_mem_parts (date : Date) : ∀ c ∈ paddedDecimal 4 date.year ++
    paddedDecimal 2 date.month ++ paddedDecimal 2 date.day, isAsciiDigit c = true := by
  intro c member
  rw [List.mem_append, List.mem_append] at member
  rcases member with (member | member) | member
  all_goals exact isAsciiDigit_of_mem_paddedDecimal member

/-- The text of a date has the form of one, with nothing after it. -/
theorem dateForm_text (date : Date) : DateForm date.text (paddedDecimal 4 date.year)
    (paddedDecimal 2 date.month) (paddedDecimal 2 date.day) [] := by
  obtain ⟨years, months, days⟩ := date.length_parts
  refine ⟨?_, years, months, days, ?_⟩
  · simp [text]
  · exact fun c member => isDigit_of_isAsciiDigit (date.isAsciiDigit_of_mem_parts c member)

/-- The published form of a date is its text, and no other text is. -/
theorem isWrittenIn_iff {date : Date} {text : Text} :
    date.IsWrittenIn text ↔ text = date.text := by
  constructor
  · rintro ⟨year, month, day, form, ascii, isYear, isMonth, isDay⟩
    have years := paddedDecimal_digitsValue year (by rw [form.yearLength]; decide)
      fun c member => ascii c (by simp [member])
    have months := paddedDecimal_digitsValue month (by rw [form.monthLength]; decide)
      fun c member => ascii c (by simp [member])
    have days := paddedDecimal_digitsValue day (by rw [form.dayLength]; decide)
      fun c member => ascii c (by simp [member])
    rw [form.yearLength, isYear] at years
    rw [form.monthLength, isMonth] at months
    rw [form.dayLength, isDay] at days
    rw [form.parts, Date.text, years, months, days, List.append_nil]
  · rintro rfl
    exact ⟨_, _, _, date.dateForm_text, date.isAsciiDigit_of_mem_parts,
      digitsValue_paddedDecimal _ _, digitsValue_paddedDecimal _ _, digitsValue_paddedDecimal _ _⟩

/-- No text is the published form of two dates. -/
theorem IsWrittenIn.unique {date other : Date} {text : Text} (written : date.IsWrittenIn text)
    (otherWritten : other.IsWrittenIn text) : date = other :=
  text_injective ((isWrittenIn_iff.mp written).symm.trans (isWrittenIn_iff.mp otherWritten))

/-- A text with the form of a date is read as a date exactly if nothing follows the form, all its
digits are of ASCII, and they denote a day of the calendar. -/
theorem exists_readDate?_iff {text : Text} {year month day rest : Text}
    (form : DateForm text year month day rest) :
    (∃ date, Schedule.readDate? text = some date) ↔
      rest = [] ∧ (∀ c ∈ year ++ month ++ day, isAsciiDigit c = true) ∧
        IsDate (digitsValue year) (digitsValue month) (digitsValue day) := by
  simp only [Schedule.readDate?_eq_some_iff, ← isWrittenIn_iff]
  constructor
  · rintro ⟨date, year', month', day', written, ascii, isYear, isMonth, isDay⟩
    obtain ⟨rfl, rfl, rfl, rfl⟩ := form.unique written
    refine ⟨rfl, ascii, ?_⟩
    rw [isYear, isMonth, isDay]
    exact date.valid
  · rintro ⟨rfl, ascii, valid⟩
    exact ⟨⟨_, _, _, valid⟩, year, month, day, form, ascii, rfl, rfl, rfl⟩

end Date

end Observance

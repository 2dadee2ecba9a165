import Observance.Calendar.Moment
import Observance.Proofs.Calendar.DateOrder
import Observance.Proofs.Text.Parts

/-! # Timestamps

A timestamp is read as a date and a time of day of universal time, down to the millisecond. It gives
back the moment that it was made of, less what is beyond whole milliseconds, whatever the offset of
its clock was. A moment that is outside the calendar in universal time has no timestamp. Years are
not padded, so timestamps are in the order of their moments once the years have four digits.
-/

namespace Observance

open Calendar Text Result

/-- Characters are the digits of a date and of a time of day, with the marks of a timestamp between
and after them. Only the year may have any number of digits. -/
structure Calendar.TimestampForm
    (characters year month day hour minute second millisecond : Text) : Prop where
  parts : characters = year ++ .char '-' :: month ++ .char '-' :: day ++ .char 'T' :: hour ++
    .char ':' :: minute ++ .char ':' :: second ++ .char '.' :: millisecond ++ [.char 'Z']
  monthLength : month.length = 2
  dayLength : day.length = 2
  hourLength : hour.length = 2
  minuteLength : minute.length = 2
  secondLength : second.length = 2
  millisecondLength : millisecond.length = 3
  digits : ∀ c ∈ year ++ month ++ day ++ hour ++ minute ++ second ++ millisecond,
    isAsciiDigit c = true

namespace Moment

/-- A text is read as a number of milliseconds from the start of the day before the first date: its
date is one of the calendar, its time of day is one of a clock, and together they give the number.
-/
def ReadsAs (text : Text) (count : Int) : Prop :=
  ∃ (date : Date) (year month day hour minute second millisecond : Text),
    TimestampForm text year month day hour minute second millisecond ∧
      (digitsValue year = date.year ∧ digitsValue month = date.month ∧
        digitsValue day = date.day) ∧
      (digitsValue hour < 24 ∧ digitsValue minute < 60 ∧ digitsValue second < 60) ∧
      count = ((((date.number : Int) * 24 + digitsValue hour) * 60 + digitsValue minute) * 60 +
        digitsValue second) * 1000 + digitsValue millisecond

/-- The number of whole milliseconds that are over at a moment. -/
def millisecond (moment : Moment) : Int := moment.instant.fdiv 1000

/-- Whether the day of a moment is one of the calendar in universal time. -/
def IsInCalendar (moment : Moment) : Prop := IsNumber (moment.instant.fdiv microsecondsPerDay)

instance (moment : Moment) : Decidable moment.IsInCalendar := by
  unfold IsInCalendar
  infer_instance

/-- The first date of a year with four digits. -/
def millennium : Date := ⟨1000, 1, 1, by decide⟩

/-- Whether the year of a moment has four digits in universal time, or more. -/
def HasFourDigits (moment : Moment) : Prop :=
  (millennium.number : Int) * microsecondsPerDay ≤ moment.instant

instance (moment : Moment) : Decidable moment.HasFourDigits := by
  unfold HasFourDigits
  infer_instance

end Moment

section Reading

/-- A part that ends in one place is the same part. -/
private theorem part_inj {part part' rest rest' : Text} {mark : CodePoint}
    (length : part.length = part'.length) (same : part ++ mark :: rest = part' ++ mark :: rest') :
    part = part' ∧ rest = rest' := by
  obtain ⟨parts, rests⟩ := List.append_inj same length
  exact ⟨parts, (List.cons.inj rests).2⟩

/-- Characters have the parts of a timestamp in one way only. -/
theorem Calendar.TimestampForm.unique
    {characters year month day hour minute second millisecond : Text}
    {year' month' day' hour' minute' second' millisecond' : Text}
    (form : TimestampForm characters year month day hour minute second millisecond)
    (other : TimestampForm characters year' month' day' hour' minute' second' millisecond') :
    (year = year' ∧ month = month' ∧ day = day') ∧
      hour = hour' ∧ minute = minute' ∧ second = second' ∧ millisecond = millisecond' := by
  have noHyphen {digits : Text} (ascii : ∀ c ∈ digits, isAsciiDigit c = true) :
      CodePoint.char '-' ∉ digits := fun member => absurd (ascii _ member) (by decide)
  have same := form.parts.symm.trans other.parts
  simp only [List.append_assoc, List.cons_append] at same
  -- The length of the year is not known, but there is no hyphen in it.
  have cut := congrArg (cutAt (.char '-')) same
  rw [cutAt_append (noHyphen fun c member => form.digits c (by simp [member])),
    cutAt_append (noHyphen fun c member => other.digits c (by simp [member])),
    Prod.mk.injEq] at cut
  obtain ⟨years, same⟩ := cut
  obtain ⟨months, same⟩ := part_inj (form.monthLength.trans other.monthLength.symm) same
  obtain ⟨days, same⟩ := part_inj (form.dayLength.trans other.dayLength.symm) same
  obtain ⟨hours, same⟩ := part_inj (form.hourLength.trans other.hourLength.symm) same
  obtain ⟨minutes, same⟩ := part_inj (form.minuteLength.trans other.minuteLength.symm) same
  obtain ⟨seconds, same⟩ := part_inj (form.secondLength.trans other.secondLength.symm) same
  obtain ⟨milliseconds, -⟩ :=
    part_inj (form.millisecondLength.trans other.millisecondLength.symm) same
  exact ⟨⟨years, months, days⟩, hours, minutes, seconds, milliseconds⟩

/-- A text is read as one number only. -/
theorem Moment.ReadsAs.unique {text : Text} {count other : Int} (reads : ReadsAs text count)
    (otherReads : ReadsAs text other) : count = other := by
  obtain ⟨date, year, month, day, hour, minute, second, millisecond, form, dates, -, rfl⟩ := reads
  obtain ⟨date', year', month', day', hour', minute', second', millisecond', form', dates', -,
    rfl⟩ := otherReads
  obtain ⟨⟨rfl, rfl, rfl⟩, rfl, rfl, rfl, rfl⟩ := form.unique form'
  have same : date.number = date'.number := by
    rw [Date.number, Date.number, ← dates.1, ← dates.2.1, ← dates.2.2, dates'.1, dates'.2.1,
      dates'.2.2]
  rw [same]

end Reading

namespace Moment

section Clock

/-- A date and a time of day of universal time show an instant. -/
structure Shows (date : Date) (time : Time) (instant : Int) : Prop where
  hour : time.hour < 24
  minute : time.minute < 60
  second : time.second < 60
  microsecond : time.microsecond < microsecondsPerSecond
  sum : ((date.number : Int) * secondsPerDay + secondOfDay time) * microsecondsPerSecond +
    time.microsecond = instant

variable {moment : Moment} {date other : Date} {time otherTime : Time} {instant otherInstant : Int}

/-- A moment in the calendar is shown by a clock of universal time. -/
theorem exists_toUniversal (inCalendar : moment.IsInCalendar) : ∃ universal,
    moment.toUniversal = .ok universal ∧
      Shows universal.date universal.time moment.instant := by
  obtain ⟨positive, bound⟩ := inCalendar
  obtain ⟨date, found, number⟩ := Date.exists_of_number
    (show 1 ≤ (moment.instant.fdiv microsecondsPerDay).toNat by omega) (by omega)
  have split := Int.fmod_add_mul_fdiv moment.instant microsecondsPerDay
  have nonneg := Int.fmod_nonneg_of_pos moment.instant
    (show (0 : Int) < microsecondsPerDay by decide)
  have small := Int.fmod_lt_of_pos moment.instant (show (0 : Int) < microsecondsPerDay by decide)
  refine ⟨_, by rw [toUniversal, found], ?_⟩
  -- Each part is bounded by its divisor, and the remainders make up for what division drops.
  simp only [microsecondsPerDay, secondsPerDay, microsecondsPerSecond, Nat.reduceMul,
    Nat.cast_ofNat] at *
  constructor <;> simp only [secondOfDay, secondsPerDay, microsecondsPerSecond] <;> omega

/-- A moment outside the calendar is shown by no clock of universal time. -/
theorem toUniversal_of_not_isInCalendar (outside : ¬ moment.IsInCalendar) :
    moment.toUniversal = .error .outsideCalendar := by
  have missing : Date.ofNumber? (moment.instant.fdiv microsecondsPerDay).toNat = none := by
    unfold IsInCalendar IsNumber at outside
    rw [Date.ofNumber?, if_pos (by omega)]
  rw [toUniversal, missing]

/-- The whole milliseconds of an instant are those that its clock shows. -/
theorem Shows.fdiv (shows : Shows date time instant) : instant.fdiv 1000 =
    ((((date.number : Int) * 24 + time.hour) * 60 + time.minute) * 60 + time.second) * 1000 +
      (time.microsecond / 1000 : Nat) := by
  obtain ⟨-, -, -, -, sum⟩ := shows
  simp only [secondOfDay, secondsPerDay, microsecondsPerSecond] at sum
  rw [Int.fdiv_eq_ediv_of_nonneg _ (by decide)]
  omega

/-- The timestamp of a clock is read as the whole milliseconds of the instant that it shows. -/
theorem Shows.readsAs (shows : Shows date time instant) :
    ReadsAs (timestampText date time) (instant.fdiv 1000) := by
  have microsecond := shows.microsecond
  rw [microsecondsPerSecond] at microsecond
  obtain ⟨-, months, days⟩ := date.length_parts
  have two {n : Nat} (bound : n < 60) : (paddedDecimal 2 n).length = 2 :=
    length_paddedDecimal (by decide) (by omega)
  refine ⟨date, numeral 10 date.year, paddedDecimal 2 date.month, paddedDecimal 2 date.day,
    paddedDecimal 2 time.hour, paddedDecimal 2 time.minute, paddedDecimal 2 time.second,
    paddedDecimal 3 (time.microsecond / 1000), ⟨?_, months, days, ?_, ?_, ?_, ?_, ?_⟩, ?_⟩
  · simp [timestampText, timeText]
  · exact two (by have := shows.hour; omega)
  · exact two shows.minute
  · exact two shows.second
  · exact length_paddedDecimal (by decide) (by omega)
  · intro c member
    simp only [List.mem_append] at member
    rcases member with (((((year | month) | day) | hour) | minute) | second) | millisecond
    · exact isAsciiDigit_of_mem_numeral year
    all_goals exact isAsciiDigit_of_mem_paddedDecimal ‹_›
  · simp only [digitsValue_numeral, digitsValue_paddedDecimal, true_and]
    exact ⟨⟨shows.hour, shows.minute, shows.second⟩, shows.fdiv⟩

/-- Clocks have the same timestamp exactly if they show the same millisecond. -/
theorem Shows.timestampText_eq_iff (shows : Shows date time instant)
    (otherShows : Shows other otherTime otherInstant) :
    timestampText date time = timestampText other otherTime ↔
      instant.fdiv 1000 = otherInstant.fdiv 1000 := by
  constructor
  · intro same
    exact shows.readsAs.unique (same ▸ otherShows.readsAs)
  · intro same
    rw [shows.fdiv, otherShows.fdiv] at same
    obtain ⟨hour, minute, second, microsecond, -⟩ := shows
    obtain ⟨hour', minute', second', microsecond', -⟩ := otherShows
    rw [microsecondsPerSecond] at microsecond microsecond'
    have dates : date = other := Date.number_injective (by omega)
    have hours : time.hour = otherTime.hour := by omega
    have minutes : time.minute = otherTime.minute := by omega
    have seconds : time.second = otherTime.second := by omega
    have milliseconds : time.microsecond / 1000 = otherTime.microsecond / 1000 := by omega
    simp only [timestampText, timeText, dates, hours, minutes, seconds, milliseconds]

/-- The year of a date has four digits from the first such date on. -/
theorem le_year_of_le (later : millennium ≤ date) : 1000 ≤ date.year := by
  have notBefore : ¬ date < millennium := Nat.not_lt.mpr later
  rw [Date.lt_iff_parts] at notBefore
  simp only [millennium] at notBefore
  omega

/-- Clocks that show years of four digits have timestamps in the order of the milliseconds that
they show. -/
theorem Shows.timestampText_lt_iff (shows : Shows date time instant)
    (otherShows : Shows other otherTime otherInstant) (later : millennium ≤ date)
    (otherLater : millennium ≤ other) :
    timestampText date time < timestampText other otherTime ↔
      instant.fdiv 1000 < otherInstant.fdiv 1000 := by
  obtain ⟨isYear, isMonth, isDay⟩ := date.parts_lt
  obtain ⟨otherIsYear, otherIsMonth, otherIsDay⟩ := other.parts_lt
  have milliseconds := shows.fdiv
  have otherMilliseconds := otherShows.fdiv
  obtain ⟨hour, minute, second, microsecond, -⟩ := shows
  obtain ⟨otherHour, otherMinute, otherSecond, otherMicrosecond, -⟩ := otherShows
  rw [microsecondsPerSecond] at microsecond otherMicrosecond
  have afterMark {mark : CodePoint} {rest rest' : Text} :
      mark :: rest < mark :: rest' ↔ rest < rest' := by simp
  rw [timestampText, timestampText, timeText, timeText,
    ← paddedDecimal_of_le (show 0 < 3 by decide) (le_year_of_le later),
    ← paddedDecimal_of_le (show 0 < 3 by decide) (le_year_of_le otherLater)]
  -- The first part that differs decides, and all parts are written in one width.
  simp (disch := omega) only [List.append_assoc, List.cons_append, paddedDecimal_append_lt_iff,
    afterMark, List.lt_irrefl, and_false, or_false]
  -- The first three parts decide between the numbers of the dates, in either direction.
  have earlier : date < other ↔ _ := Date.lt_iff_parts
  have after : other < date ↔ _ := Date.lt_iff_parts
  change date.number < other.number ↔ _ at earlier
  change other.number < date.number ↔ _ at after
  rw [milliseconds, otherMilliseconds]
  omega

/-- A clock that shows an instant from the first year of four digits on shows such a year. -/
theorem Shows.millennium_le (shows : Shows date time instant)
    (fourDigits : (millennium.number : Int) * microsecondsPerDay ≤ instant) :
    millennium ≤ date := by
  obtain ⟨hour, minute, second, microsecond, sum⟩ := shows
  change millennium.number ≤ date.number
  simp only [secondOfDay, microsecondsPerDay, secondsPerDay, microsecondsPerSecond,
    Nat.reduceMul] at *
  omega

end Clock

section Timestamp

variable {moment : Moment}

/-- The timestamp of a moment in the calendar is that of a clock which shows the moment. -/
theorem exists_timestamp (inCalendar : moment.IsInCalendar) : ∃ date time,
    moment.timestamp = .ok (timestampText date time) ∧
      Shows date time moment.instant := by
  obtain ⟨universal, found, shows⟩ := exists_toUniversal inCalendar
  exact ⟨universal.date, universal.time, by rw [timestamp, found]; rfl, shows⟩

theorem timestamp_of_not_isInCalendar (outside : ¬ moment.IsInCalendar) :
    moment.timestamp = .error .outsideCalendar := by
  rw [timestamp, toUniversal_of_not_isInCalendar outside]
  rfl

/-- A moment in the calendar has a timestamp that is read as its whole milliseconds and as nothing
else. Moments have the same timestamp exactly if they have the same whole milliseconds, and from the
first year of four digits on timestamps are in the order of the moments. A moment outside the
calendar overflows. -/
theorem timestamp_readsAs (moment : Moment) :
    (moment.IsInCalendar → ∃ text, moment.timestamp = .ok text ∧
      (∀ count, ReadsAs text count ↔ count = moment.millisecond) ∧
      ∀ other : Moment, other.IsInCalendar → ∃ otherText, other.timestamp = .ok otherText ∧
        (text = otherText ↔ moment.millisecond = other.millisecond) ∧
        (moment.HasFourDigits → other.HasFourDigits → moment.instant ≤ other.instant →
          text ≤ otherText)) ∧
    (¬ moment.IsInCalendar → ∃ error, moment.timestamp = .error error ∧
      error.kind = "OverflowError") := by
  constructor
  · intro inCalendar
    obtain ⟨date, time, made, shows⟩ := exists_timestamp inCalendar
    refine ⟨_, made, fun count => ⟨fun reads => reads.unique shows.readsAs, ?_⟩, ?_⟩
    · rintro rfl
      exact shows.readsAs
    · intro other otherInCalendar
      obtain ⟨otherDate, otherTime, otherMade, otherShows⟩ := exists_timestamp otherInCalendar
      refine ⟨_, otherMade, ?_, fun fourDigits otherFourDigits earlier => ?_⟩
      · rw [shows.timestampText_eq_iff otherShows, millisecond, millisecond]
      · have inOrder := otherShows.timestampText_lt_iff shows
          (otherShows.millennium_le otherFourDigits) (shows.millennium_le fourDigits)
        have notLater : ¬ other.instant.fdiv 1000 < moment.instant.fdiv 1000 := by
          rw [Int.fdiv_eq_ediv_of_nonneg _ (by decide), Int.fdiv_eq_ediv_of_nonneg _ (by decide)]
          omega
        exact not_lt.mp fun earlier => notLater (inOrder.mp earlier)
  · intro outside
    exact ⟨.outsideCalendar, timestamp_of_not_isInCalendar outside, rfl⟩

end Timestamp

section LeapDay

/-- The last microsecond of a leap day, on a clock that is behind by a microsecond. -/
def leapDayEnd : Moment := ⟨⟨2028, 2, 29, by decide⟩, ⟨23, 59, 59, 999999⟩, some (-1)⟩

/-- The first microsecond of the calendar, on a clock that is ahead by as much. -/
def tooEarly : Moment := ⟨Date.first, ⟨0, 0, 0, 0⟩, some 1⟩

/-- The timestamp of the leap day's end is read as the start of the first of March. -/
theorem timestamp_readsAs_leapDay : (∃ text, leapDayEnd.timestamp = .ok text ∧
      ∀ count, ReadsAs text count ↔
        count = (⟨2028, 3, 1, by decide⟩ : Date).number * 86400000) ∧
    ∃ error, tooEarly.timestamp = .error error ∧ error.kind = "OverflowError" := by
  obtain ⟨text, made, reads, -⟩ := (timestamp_readsAs leapDayEnd).1 (by decide)
  have start : leapDayEnd.millisecond = (⟨2028, 3, 1, by decide⟩ : Date).number * 86400000 := by
    decide
  exact ⟨⟨text, made, start ▸ reads⟩, (timestamp_readsAs tooEarly).2 (by decide)⟩

end LeapDay

end Moment

end Observance

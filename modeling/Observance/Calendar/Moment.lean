import Observance.Calendar.Parts

/-! # Moments

A moment is a date and a time of day, at a known offset from universal time or without one; a
moment without an offset is taken for universal time. Its timestamp gives universal time down to
the millisecond.
-/

namespace Observance

/-- A time of day. -/
structure Time where
  hour : Nat
  minute : Nat
  second : Nat
  microsecond : Nat
deriving Repr, DecidableEq, Inhabited

/-- A date and a time of day, with the offset of its clock from universal time in microseconds. -/
structure Moment where
  date : Date
  time : Time
  offset : Option Int
deriving Repr, DecidableEq, Inhabited

/-- The parts of a moment before they are checked. The offset has seconds, and microseconds that are
added to them. -/
structure MomentParts where
  year : Int
  month : Int
  day : Int
  hour : Int := 0
  minute : Int := 0
  second : Int := 0
  microsecond : Int := 0
  offset : Option Int
  offsetMicrosecond : Int := 0
deriving Repr, DecidableEq

namespace Moment

open Calendar Text

def secondsPerDay : Nat := 86400

def microsecondsPerSecond : Nat := 1000000

def microsecondsPerDay : Nat := secondsPerDay * microsecondsPerSecond

def checkOffset (microseconds : Int) : Except DateError Unit := do
  checkDuration (microseconds.fdiv microsecondsPerDay)
  if microseconds.natAbs < microsecondsPerDay then return ()
  else throw (.offsetOutOfRange microseconds)

/-- The moment with the given parts. The offset is checked first, then the size of all parts, then
each part. -/
def ofParts (parts : MomentParts) : Except DateError Moment := do
  let offset := parts.offset.map (· * microsecondsPerSecond + parts.offsetMicrosecond)
  if let some microseconds := offset then checkOffset microseconds
  for part in [parts.year, parts.month, parts.day, parts.hour, parts.minute, parts.second,
      parts.microsecond] do
    checkPart part
  let date ← Date.ofCheckedParts parts.year parts.month parts.day
  if parts.hour < 0 ∨ 23 < parts.hour then throw .hourOutOfRange
  if parts.minute < 0 ∨ 59 < parts.minute then throw .minuteOutOfRange
  if parts.second < 0 ∨ 59 < parts.second then throw .secondOutOfRange
  if parts.microsecond < 0 ∨ 999999 < parts.microsecond then throw .microsecondOutOfRange
  let time := ⟨parts.hour.toNat, parts.minute.toNat, parts.second.toNat, parts.microsecond.toNat⟩
  return { date, time, offset }

def secondOfDay (time : Time) : Nat := time.hour * 3600 + time.minute * 60 + time.second

/-- The number of microseconds from the start of the day before the first date to a moment, in
universal time. -/
def instant (moment : Moment) : Int :=
  ((moment.date.number : Int) * secondsPerDay + secondOfDay moment.time) * microsecondsPerSecond +
    moment.time.microsecond - moment.offset.getD 0

def epochNumber : Nat := 719163

/-- The moment of a clock that counts milliseconds from the start of 1970 in universal time; beyond
the calendar the clock starts again at the first date. -/
def ofMilliseconds (count : Nat) : Moment :=
  let second := count / 1000
  let ofDay := second % secondsPerDay
  { date := (Date.ofNumber? (epochNumber + second / secondsPerDay)).getD Date.first
    time := ⟨ofDay / 3600, ofDay / 60 % 60, ofDay % 60, count % 1000 * 1000⟩
    offset := some 0 }

/-- The same moment on a clock of universal time. -/
def toUniversal (moment : Moment) : Except DateError Moment :=
  match Date.ofNumber? (moment.instant.fdiv microsecondsPerDay).toNat with
  | none => .error .outsideCalendar
  | some date =>
    let microsecond := (moment.instant.fmod microsecondsPerDay).toNat
    let second := microsecond / microsecondsPerSecond
    let time :=
      ⟨second / 3600, second / 60 % 60, second % 60, microsecond % microsecondsPerSecond⟩
    .ok { date, time, offset := some 0 }

/-- The characters of a time of day, down to the millisecond. -/
def timeText (time : Time) : Text :=
  paddedDecimal 2 time.hour ++ .char ':' :: paddedDecimal 2 time.minute ++ .char ':' ::
    paddedDecimal 2 time.second ++ .char '.' :: paddedDecimal 3 (time.microsecond / 1000)

/-- The characters of a timestamp; the year is not padded. -/
def timestampText (date : Date) (time : Time) : Text :=
  numeral 10 date.year ++ .char '-' :: paddedDecimal 2 date.month ++ .char '-' ::
    paddedDecimal 2 date.day ++ .char 'T' :: timeText time ++ [.char 'Z']

/-- The timestamp of a moment. -/
def timestamp (moment : Moment) : Except DateError Text := do
  let universal ← moment.toUniversal
  return (timestampText universal.date universal.time)

end Moment

end Observance

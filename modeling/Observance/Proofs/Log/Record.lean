import Observance.Log.Record
import Observance.Proofs.Json.Fields
import Observance.Proofs.Json.Legible
import Observance.Proofs.Json.Plain
import Observance.Proofs.Log.Timestamp
import Observance.Proofs.Result

/-! # What the line of a record tells

A line of log is a document of ASCII on one line, whatever its message says, and what is read from
it is what the record was made with. A further field can change no more of that than its name says:
of the four fields that every line has it replaces the one of its own name, and the message not even
then.
-/

namespace Observance.Log

open Json Result Text

section Names

variable {name : Text}

/-- The names under which a record itself keeps what it was made with. -/
def ownNames : List Text :=
  reservedNames.filter fun name => name != "message" && name != "asctime"

/-- Whether a further field is shown by the line of its record. -/
def isShown (name : Text) : Bool :=
  name != "message" && name != "asctime" && name.head? != some (.char '_')

theorem isWritten_eq_isShown (further : name ∉ ownNames) : isWritten name = isShown name := by
  -- The two reserved names that are not the record's own are those that are never shown.
  by_cases message : name = ("message" : Text)
  · subst message
    rfl
  · by_cases time : name = ("asctime" : Text)
    · subst time
      rfl
    · have free : name ∉ reservedNames := fun reserved =>
        further (List.mem_filter.mpr ⟨reserved, by simp [message, time]⟩)
      simp [isWritten, isShown, free, message, time]

end Names

section Line

variable {line : Line}

/-- What is under a name in a line that reports no failure. -/
theorem Line.get?_fields (distinct : (line.extra.map Prod.fst).Nodup)
    (noFailure : line.failure = none) (name : Text) :
    line.fields.get? name = (if isWritten name then line.extra.get? name else none).or
      (line.ownFields.get? name) := by
  have written : ((line.extra.filter fun field => isWritten field.1).map Prod.fst).Nodup :=
    distinct.sublist (List.filter_sublist.map _)
  rw [fields, noFailure, Fields.get?_foldl_put written, Fields.get?_filter]

/-- Whether what a line says can be read back from its text as it was. -/
structure Line.IsReadable (line : Line) : Prop where
  timestamp : line.timestamp.isUnpaired = true
  level : isReadable true line.level = true
  message : line.message.isUnpaired = true
  logger : isReadable true line.logger = true
  extra : haveReadable true line.extra = true
  noFailure : line.failure = none

theorem Line.IsReadable.fields (readable : line.IsReadable) :
    haveReadable true line.fields = true := by
  have own : haveReadable true line.ownFields = true := by
    simp [ownFields, haveReadable, isReadable, isKept, readable.timestamp, readable.level,
      readable.message, readable.logger]
  have values := (haveReadable_iff_forall.mp readable.extra).2
  rw [Line.fields, readable.noFailure]
  exact haveReadable_foldl_put own fun field member =>
    values field (List.mem_of_mem_filter (p := fun field => isWritten field.1) member)

/-- The fields of a line are read from its text. -/
theorem Line.IsReadable.read_text (readable : line.IsReadable) :
    read line.text = .ok (.object line.fields) := read_write_readable .line readable.fields

/-- The text of a line has visible characters and spaces only. -/
theorem Line.IsReadable.isVisibleText (readable : line.IsReadable) :
    IsVisibleText line.text := by
  have legible := (haveReadable_iff.mp readable.fields).1
  exact isVisibleText_write (show Layout.line.asciiOnly = true from rfl) rfl legible

end Line

/-- A level that is a number has a name without halves. -/
theorem isExact_levelName (level : Int) : (levelName (.integer level)).IsExact := by
  refine isReadable_iff_isExact.mp ?_
  rw [levelName]
  split
  next name severity found =>
    have whole : ∀ named ∈ severities, isReadable true (.text named.1) = true := by decide
    exact whole _ (List.mem_of_find?_eq_some found)
  next =>
    refine isKept_of_isUnpaired (isUnpaired_of_isVisibleText (isVisibleText_append.mpr ⟨?_, ?_⟩))
    · decide
    · exact isVisibleText_writeInteger level

namespace Record

variable {record : Record} {message name : Text}

/-- Whether a record was made with what a line can tell: a time that has a timestamp, values that
documents have, and no further field under a name of the record's own. -/
structure IsSound (record : Record) : Prop where
  second : ∃ second, secondOf record.second = .ok second ∧
    firstSecond ≤ second ∧ second ≤ lastSecond
  millisecond : ∃ milliseconds, truncated 'd' record.millisecond = .ok milliseconds
  level : (levelName record.level).IsExact
  name : record.name.IsExact
  extra : (Json.object record.extra).IsExact
  further : ∀ field ∈ record.extra, field.1 ∉ ownNames

/-- The line of a record that none of its further fields changes, with a timestamp and a message. -/
def plainLine (record : Record) (timestamp message : Text) : Line :=
  { timestamp, message, level := levelName record.level, logger := record.name,
    extra := record.extra, failure := none }

/-- What the fields of a line tell of a record and its message. -/
structure Tells (record : Record) (message : Text) (fields : Fields) : Prop where
  message : fields.get? "message" = some (.text message)
  level : record.extra.get? "level" = none →
    fields.get? "level" = some (levelName record.level)
  logger : record.extra.get? "logger" = none → fields.get? "logger" = some record.name
  timestamp : record.extra.get? "timestamp" = none →
    ∃ timestamp, record.timestamp = .ok timestamp ∧
      fields.get? "timestamp" = some (.text timestamp)
  further {name : Text} {value : Json} : isShown name = true →
    record.extra.get? name = some value → fields.get? name = some value
  nothingElse {name : Text} {value : Json} : fields.get? name = some value →
    name ∈ (["timestamp", "level", "message", "logger"] : List Text) ∨
      isShown name = true ∧ record.extra.get? name = some value

theorem isVisibleText_timestamp {timestamp : Text} (timed : record.timestamp = .ok timestamp) :
    IsVisibleText timestamp := by
  obtain ⟨seconds, written, rest⟩ := bind_eq_ok.mp timed
  obtain ⟨milliseconds, padded, same⟩ := bind_eq_ok.mp rest
  cases same
  obtain ⟨second, -, dated⟩ := bind_eq_ok.mp (mapError_eq_ok.mp written)
  exact isVisibleText_append.mpr ⟨isVisibleText_secondText dated, isVisibleText_cons.mpr
    ⟨by decide, isVisibleText_millisecondText (mapError_eq_ok.mp padded)⟩⟩

namespace IsSound

theorem haveReadable (sound : record.IsSound) : haveReadable true record.extra = true :=
  show isReadable true (.object _) = true from isReadable_iff_isExact.mpr sound.extra

theorem distinct (sound : record.IsSound) : (record.extra.map Prod.fst).Nodup :=
  (haveReadable_iff_forall.mp sound.haveReadable).1

theorem get?_own (sound : record.IsSound) (own : name ∈ ownNames) :
    record.extra.get? name = none :=
  Fields.get?_eq_none_of_not_mem fun field member same => sound.further field member (same ▸ own)

theorem field_own (sound : record.IsSound) (own : name ∈ ownNames) (value : Json) :
    record.field name value = value := by
  rw [field, sound.get?_own own, Option.getD_none]

theorem exists_timestamp (sound : record.IsSound) :
    ∃ timestamp, record.timestamp = .ok timestamp := by
  obtain ⟨second, counted, within⟩ := sound.second
  obtain ⟨seconds, written⟩ := exists_secondText_iff.mpr within
  obtain ⟨_, truncated⟩ := sound.millisecond
  obtain ⟨milliseconds, padded⟩ := exists_millisecondText truncated
  rw [timestamp, sound.field_own (by decide), sound.field_own (by decide), counted, padded]
  simp only [Except.bind, written]
  exact ⟨_, rfl⟩

/-- A record whose message can be put into words has its plain line. -/
theorem exists_line (sound : record.IsSound) (worded : record.messageText = .ok message) :
    ∃ timestamp, record.timestamp = .ok timestamp ∧
      record.line = .ok (record.plainLine timestamp message) := by
  obtain ⟨timestamp, timed⟩ := sound.exists_timestamp
  refine ⟨timestamp, timed, ?_⟩
  simp only [line, timed, worded, sound.field_own (show ("exc_info" : Text) ∈ ownNames by decide),
    sound.field_own (show ("levelname" : Text) ∈ ownNames by decide),
    sound.field_own (show ("name" : Text) ∈ ownNames by decide)]
  rfl

theorem isReadable_plainLine {timestamp : Text} (sound : record.IsSound)
    (timed : record.timestamp = .ok timestamp) (unpaired : message.isUnpaired = true) :
    (record.plainLine timestamp message).IsReadable where
  timestamp := isUnpaired_of_isVisibleText (isVisibleText_timestamp timed)
  level := isReadable_iff_isExact.mpr sound.level
  message := unpaired
  logger := isReadable_iff_isExact.mpr sound.name
  extra := sound.haveReadable
  noFailure := rfl

/-- What is under a name in the plain line of a record. -/
theorem get?_plainLine (sound : record.IsSound) (timestamp message name : Text) :
    (record.plainLine timestamp message).fields.get? name =
      (if isWritten name then record.extra.get? name else none).or
        ((record.plainLine timestamp message).ownFields.get? name) :=
  Line.get?_fields sound.distinct rfl name

/-- The plain line of a record tells what the record does. -/
theorem tells {timestamp : Text} (sound : record.IsSound)
    (timed : record.timestamp = .ok timestamp) (message : Text) :
    record.Tells message (record.plainLine timestamp message).fields where
  message := by
    rw [sound.get?_plainLine]
    rfl
  level free := by
    rw [sound.get?_plainLine, free]
    rfl
  logger free := by
    rw [sound.get?_plainLine, free]
    rfl
  timestamp free := by
    rw [sound.get?_plainLine, free]
    exact ⟨timestamp, timed, rfl⟩
  further {name value} shown given := by
    have free := sound.further _ ((get?_eq_some_iff sound.distinct).mp given)
    rw [sound.get?_plainLine, isWritten_eq_isShown free, if_pos shown, given]
    rfl
  nothingElse {name value} present := by
    rw [sound.get?_plainLine, Option.or_eq_some_iff] at present
    -- A field of the line is there because it was given or because every line has it.
    rcases present with further | ⟨-, own⟩
    · right
      split at further
      next written =>
        have free := sound.further _ ((get?_eq_some_iff sound.distinct).mp further)
        exact ⟨isWritten_eq_isShown free ▸ written, further⟩
      next => cases further
    · left
      have distinct : (((record.plainLine timestamp message).ownFields).map Prod.fst).Nodup := by
        simp [plainLine, Line.ownFields]
      exact List.mem_map_of_mem (f := Prod.fst) ((get?_eq_some_iff distinct).mp own)

end IsSound

/-- The line of a record is one of visible characters and spaces, and what is read from it is what
the record tells, whatever its message is, unless two of the code points that follow one another in
the message are halves that belong to a pair. -/
theorem line_tells (sound : record.IsSound) (worded : record.messageText = .ok message)
    (unpaired : message.isUnpaired = true) :
    ∃ line, record.line = .ok line ∧ IsVisibleText line.text ∧
      ∃ fields, read line.text = .ok (.object fields) ∧ record.Tells message fields := by
  obtain ⟨timestamp, timed, made⟩ := sound.exists_line worded
  have readable := sound.isReadable_plainLine timed unpaired
  exact ⟨_, made, readable.isVisibleText, _, readable.read_text, sound.tells timed message⟩

/-- A record whose message would end its line and begin another one, of a level of its own. -/
def forgery : Record where
  name := .text "observance"
  level := .integer 20
  message := .text "%s\"\x7d\r\n\x7b\"level\": \"CRITICAL\"\x7d\u2028é"
  values := some (.ofList [.text "\\"])
  second := .integer 1700000000
  millisecond := .integer 7
  extra := [("user", .object [("id", .integer 7)]), ("message", .text "other"),
    ("_hidden", .bool true), ("level", .text "loud")]

def forgedMessage : Text := "\\\"\x7d\r\n\x7b\"level\": \"CRITICAL\"\x7d\u2028é"

theorem line_tells_forgery : forgery.IsSound ∧ forgery.messageText = .ok forgedMessage ∧
    forgedMessage.isUnpaired = true ∧
    ∃ line, forgery.line = .ok line ∧ IsVisibleText line.text ∧
      ∃ fields, read line.text = .ok (.object fields) ∧ forgery.Tells forgedMessage fields := by
  have sound : forgery.IsSound :=
    { second := ⟨1700000000, rfl, by decide⟩
      millisecond := ⟨7, rfl⟩
      level := isExact_levelName 20
      name := isReadable_iff_isExact.mp rfl
      extra := isReadable_iff_isExact.mp (by decide)
      further := by decide }
  have worded : forgery.messageText = .ok forgedMessage := rfl
  have unpaired : forgedMessage.isUnpaired = true := isUnpaired_ofString _
  exact ⟨sound, worded, unpaired, line_tells sound worded unpaired⟩

/-- A record whose message has the two halves of a pair as its values. -/
def pairing : Record where
  name := .text "observance"
  level := .integer 20
  message := .text "%c%c"
  values := some (.ofList [.integer 0xD83D, .integer 0xDE00])
  second := .integer 1700000000
  millisecond := .integer 7

/-- The line of that record is read as that of a record whose message is the character of the pair.
-/
theorem exists_line_not_tells : pairing.IsSound ∧
    pairing.messageText = .ok [.ofNat 0xD83D, .ofNat 0xDE00] ∧
    ∃ line fields, pairing.line = .ok line ∧ read line.text = .ok (.object fields) ∧
      Fields.get? fields "message" = some (.text ['😀']) ∧
      ¬pairing.Tells [.ofNat 0xD83D, .ofNat 0xDE00] fields := by
  have sound : pairing.IsSound :=
    { second := ⟨1700000000, rfl, by decide⟩
      millisecond := ⟨7, rfl⟩
      level := isExact_levelName 20
      name := isReadable_iff_isExact.mp rfl
      extra := isReadable_iff_isExact.mp rfl
      further := nofun }
  have worded : pairing.messageText = .ok [.ofNat 0xD83D, .ofNat 0xDE00] := rfl
  obtain ⟨timestamp, timed, made⟩ := sound.exists_line worded
  -- Both the pair and its character are written as the same two escapes.
  have same : (pairing.plainLine timestamp [.ofNat 0xD83D, .ofNat 0xDE00]).text =
      (pairing.plainLine timestamp ['😀']).text := rfl
  have readable : (pairing.plainLine timestamp ['😀']).IsReadable :=
    sound.isReadable_plainLine timed rfl
  have joined := (sound.tells timed ['😀']).message
  refine ⟨sound, worded, _, _, made, same ▸ readable.read_text, joined, fun tells => ?_⟩
  have equal := tells.message.symm.trans joined
  exact absurd (Json.text.inj (Option.some.inj equal)) (by decide)

end Record

end Observance.Log

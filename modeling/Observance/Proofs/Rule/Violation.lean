import Observance.Proofs.Rule.Document

/-! # The first violation of a rule document

The first violation is the one that counts. Every error of a document of the wrong shape is of the
kind for violations. If the shape is right, the entries before the first one that is refused are
accepted, so there is one way only to an error of another kind: the first entry that is refused is a
calendar rule whose pattern cannot be used for another reason than its syntax. Of these errors those
are not foreseen where the pattern asks for more than a search can do, or has groups that lie deeper
than there is room for.
-/

namespace Observance

open Result

variable {α β : Type}

/-- All errors of a result are of the kind for violations. -/
def RuleError.Validates (result : Except RuleError α) : Prop :=
  ∀ error, result = .error error → error.kind = "RuleValidationError"

namespace RuleError.Validates

theorem ofPure (value : α) : Validates (pure value) := fun _ failure => absurd failure pure_ne_error

theorem ofThrow {error : RuleError} (isViolation : error.kind = "RuleValidationError") :
    Validates (throw error : Except RuleError α) := by
  intro other failure
  rw [← throw_eq_error.mp failure]
  exact isViolation

theorem ofRequire {error : RuleError} (isViolation : error.kind = "RuleValidationError")
    (found : Option α) : Validates (RuleDocument.require error found) := by
  intro other failure
  cases found with
  | none =>
    cases failure
    exact isViolation
  | some value => cases failure

theorem bind {result : Except RuleError α} {next : α → Except RuleError β}
    (first : Validates result) (rest : ∀ value, Validates (next value)) :
    Validates (result >>= next) := by
  intro error failure
  rcases bind_eq_error.mp failure with failure | ⟨value, -, failure⟩
  · exact first error failure
  · exact rest value error failure

end RuleError.Validates

namespace RuleDocument

open RuleError.Validates

theorem validates_readWindow (fields : Fields) : RuleError.Validates (readWindow fields) := by
  refine bind (ofRequire rfl _) fun sides => bind (ofRequire rfl _) fun before => ?_
  refine bind (ofRequire rfl _) fun after => ?_
  split
  · exact ofPure _
  · exact ofThrow rfl

theorem validates_readPriorityOrder (fields : Fields) :
    RuleError.Validates (readPriorityOrder fields) :=
  bind (ofRequire rfl _) fun _ => ofRequire rfl _

theorem validates_readEntry (index : Nat) (value : Json) :
    RuleError.Validates (readEntry index value) := by
  refine bind (ofRequire rfl _) fun fields => bind (ofRequire rfl _) fun id => ?_
  refine bind (ofRequire rfl _) fun name => bind (ofRequire rfl _) fun importance => ?_
  refine bind (ofRequire rfl _) fun themeId => bind (ofRequire rfl _) fun dateRule => ?_
  exact bind (ofRequire rfl _) fun type => ofPure _

theorem validates_readEntries (index : Nat) (values : List Json) :
    RuleError.Validates (readEntries index values) := by
  induction values generalizing index with
  | nil => exact ofPure _
  | cons value values ih =>
    exact bind (validates_readEntry index value) fun _ => bind (ih (index + 1)) fun _ => ofPure _

/-- A document of the wrong shape has a violation that its validation names. -/
theorem validates_ofJson (value : Json) : RuleError.Validates (ofJson value) := by
  refine bind (ofRequire rfl _) fun fields => bind (validates_readWindow fields) fun window => ?_
  refine bind (validates_readPriorityOrder fields) fun priorityOrder => ?_
  refine bind (ofRequire rfl _) fun events => ?_
  exact bind (validates_readEntries 0 events) fun entries => ofPure _

end RuleDocument

namespace Pattern.Fault

def IsInvalid (fault : Pattern.Fault) : Prop := ∃ problem offset, fault = .invalid problem offset

/-- A fault of a pattern that asks for more than a search can do, or for more room than there is. -/
def IsExcess (fault : Pattern.Fault) : Prop :=
  fault = .repetitionTooLarge ∨ fault = .unusable ∨ fault = .tooDeep

end Pattern.Fault

namespace RuleError

/-- An error about a pattern is of the kind for violations exactly if it is a problem of syntax. -/
theorem kind_patternFault {id source : Text} {fault : Pattern.Fault} :
    (patternFault id source fault).kind = "RuleValidationError" ↔ fault.IsInvalid := by
  cases fault <;> simp [kind, Pattern.Fault.IsInvalid]

theorem isForeseen_of_kind {error : RuleError} (isViolation : error.kind = "RuleValidationError") :
    error.isForeseen = true := by
  unfold isForeseen
  split
  iterate 4 simp [kind] at isViolation
  · rfl

theorem isForeseen_patternFault {id source : Text} {fault : Pattern.Fault} :
    (patternFault id source fault).isForeseen = false ↔ fault.IsExcess := by
  cases fault <;> simp [isForeseen, Pattern.Fault.IsExcess]

end RuleError

namespace RuleEntry

/-- The pattern of a calendar rule cannot be used. -/
structure Faults (room : Room) (entry : RuleEntry) (source : Text)
    (fault : Pattern.Fault) : Prop where
  type : entry.type = "calendar"
  pattern : RuleDocument.textField? entry.dateRule "calendarMatch" = some source
  faulty : Pattern.compile source room = .error fault

/-- The pattern of a calendar rule asks for more than a search can do, or for more room than there
is. -/
structure AsksTooMuch (room : Room) (entry : RuleEntry) (source : Text)
    (fault : Pattern.Fault) : Prop where
  type : entry.type = "calendar"
  pattern : RuleDocument.textField? entry.dateRule "calendarMatch" = some source
  faulty : Pattern.compile source room = .error fault
  isExcess : fault.IsExcess

variable {room : Room}

theorem asksTooMuch_iff {entry : RuleEntry} {source : Text} {fault : Pattern.Fault} :
    entry.AsksTooMuch room source fault ↔ entry.Faults room source fault ∧ fault.IsExcess :=
  ⟨fun asks => ⟨⟨asks.type, asks.pattern, asks.faulty⟩, asks.isExcess⟩,
    fun ⟨faults, isExcess⟩ => ⟨faults.type, faults.pattern, faults.faulty, isExcess⟩⟩

theorem readDateRule_of_faults {entry : RuleEntry} {source : Text} {fault : Pattern.Fault}
    (faults : entry.Faults room source fault) :
    entry.readDateRule room = .error (.patternFault entry.id source fault) := by
  rw [readDateRule, if_pos faults.type, faults.pattern]
  refine bind_eq_error.mpr (.inr ⟨source, rfl, ?_⟩)
  rw [faults.faulty]
  rfl

/-- A date rule is refused for a violation or for a pattern that cannot be used. -/
theorem faults_of_readDateRule {entry : RuleEntry} {error : RuleError}
    (failure : entry.readDateRule room = .error error) : error.kind = "RuleValidationError" ∨
      ∃ source fault, entry.Faults room source fault ∧
        error = .patternFault entry.id source fault := by
  by_cases isCalendar : entry.type = "calendar"
  · rw [readDateRule, if_pos isCalendar] at failure
    rcases bind_eq_error.mp failure with missing | ⟨source, hasPattern, failure⟩
    · exact .inl (RuleError.Validates.ofRequire rfl _ _ missing)
    · split at failure
      · exact absurd failure pure_ne_error
      next fault faulty =>
        exact .inr ⟨source, fault, ⟨isCalendar, RuleDocument.require_eq_ok.mp hasPattern, faulty⟩,
          (throw_eq_error.mp failure).symm⟩
  · have validates : RuleError.Validates (entry.readDateRule room) := by
      rw [readDateRule, if_neg isCalendar]
      split
      · exact .bind (.ofRequire rfl _) fun _ => .bind (.ofRequire rfl _) fun _ => .ofPure _
      · exact .ofPure _
    exact .inl (validates error failure)

theorem readRule_eq_error {earlier : List Text} {entry : RuleEntry} {error : RuleError} :
    entry.readRule earlier room = .error error ↔
      (entry.id ∈ earlier ∧ error = .duplicateId entry.id) ∨
        (entry.id ∉ earlier ∧ entry.readDateRule room = .error error) := by
  unfold readRule
  by_cases known : entry.id ∈ earlier
  · simp [known, bind, Except.bind, throw, throwThe, MonadExceptOf.throw, eq_comm]
  · simp only [List.contains_iff_mem, known, if_false, bind_eq_error, pure_ne_error]
    simp

end RuleEntry

namespace RuleSet

variable {room : Room}

/-- Entries are refused for the first one that is refused. -/
theorem readRules_eq_error {earlier : List Text} {entries : List RuleEntry} {error : RuleError} :
    readRules earlier entries room = .error error ↔ ∃ before entry after rules,
      entries = before ++ entry :: after ∧ readRules earlier before room = .ok rules ∧
        entry.readRule ((before.map (·.id)).reverse ++ earlier) room = .error error := by
  constructor
  · intro failure
    induction entries generalizing earlier with
    | nil => cases failure
    | cons entry entries ih =>
      rcases bind_eq_error.mp failure with failure | ⟨rule, accepted, failure⟩
      · exact ⟨[], entry, entries, [], rfl, rfl, failure⟩
      · rcases bind_eq_error.mp failure with failure | ⟨rules, -, failure⟩
        · obtain ⟨before, culprit, after, rules, rfl, others, failure⟩ := ih failure
          refine ⟨entry :: before, culprit, after, rule.toList ++ rules, rfl, ?_, ?_⟩
          · exact bind_eq_ok.mpr ⟨rule, accepted, bind_eq_ok.mpr ⟨rules, others, rfl⟩⟩
          · simpa using failure
        · exact absurd failure pure_ne_error
  · rintro ⟨before, entry, after, rules, rfl, accepted, failure⟩
    induction before generalizing earlier rules with
    | nil => exact bind_eq_error.mpr (.inl failure)
    | cons first before ih =>
      obtain ⟨rule, passed, accepted⟩ := bind_eq_ok.mp accepted
      obtain ⟨others, accepted, -⟩ := bind_eq_ok.mp accepted
      refine bind_eq_error.mpr (.inr ⟨rule, passed, bind_eq_error.mpr (.inl ?_)⟩)
      exact ih others accepted (by simpa using failure)

end RuleSet

/-- The first violation of a document is a calendar rule whose pattern cannot be used. -/
inductive RuleDocument.FaultsFirst (room : Room) (document : RuleDocument) (source : Text)
    (fault : Pattern.Fault) : Text → Prop
  | intro {before after : List RuleEntry} {entry : RuleEntry} {rules : List Rule}
      (entries : document.entries = before ++ entry :: after)
      (accepted : RuleSet.readRules [] before room = .ok rules)
      (isNew : entry.id ∉ before.map (·.id))
      (faults : entry.Faults room source fault) :
      FaultsFirst room document source fault entry.id

/-- The first violation of a document is a calendar rule whose pattern asks for more than a search
can do, or for more room than there is. -/
inductive RuleDocument.AsksTooMuch (room : Room) (document : RuleDocument) : Prop
  | intro {before after : List RuleEntry} {entry : RuleEntry} {rules : List Rule} {source : Text}
      {fault : Pattern.Fault}
      (entries : document.entries = before ++ entry :: after)
      (accepted : RuleSet.readRules [] before room = .ok rules)
      (isNew : entry.id ∉ before.map (·.id))
      (asks : entry.AsksTooMuch room source fault)

theorem RuleDocument.asksTooMuch_iff {room : Room} {document : RuleDocument} :
    document.AsksTooMuch room ↔
      ∃ id source fault, document.FaultsFirst room source fault id ∧ fault.IsExcess := by
  constructor
  · rintro ⟨entries, accepted, isNew, asks⟩
    obtain ⟨faults, isExcess⟩ := RuleEntry.asksTooMuch_iff.mp asks
    exact ⟨_, _, _, .intro entries accepted isNew faults, isExcess⟩
  · rintro ⟨_, source, fault, ⟨entries, accepted, isNew, faults⟩, isExcess⟩
    exact .intro entries accepted isNew (RuleEntry.asksTooMuch_iff.mpr ⟨faults, isExcess⟩)

namespace RuleSet

variable {room : Room}

/-- A pattern that cannot be used is the error of a document if it is its first violation. -/
theorem ofJson_of_faultsFirst {value : Json} {document : RuleDocument} {id source : Text}
    {fault : Pattern.Fault} (read : RuleDocument.ofJson value = .ok document)
    (first : document.FaultsFirst room source fault id) :
    ofJson value room = .error (.patternFault id source fault) := by
  obtain ⟨entries, accepted, isNew, faults⟩ := first
  refine bind_eq_error.mpr (.inr ⟨document, read, bind_eq_error.mpr (.inl ?_)⟩)
  refine readRules_eq_error.mpr ⟨_, _, _, _, entries, accepted, ?_⟩
  refine RuleEntry.readRule_eq_error.mpr (.inr ⟨by simpa using isNew, ?_⟩)
  exact RuleEntry.readDateRule_of_faults faults

/-- A value is refused as rules for a violation, or for a pattern that cannot be used if that is the
first violation of a document of the right shape. -/
theorem faultsFirst_of_ofJson {value : Json} {error : RuleError}
    (failure : ofJson value room = .error error) : error.kind = "RuleValidationError" ∨
      ∃ document id source fault, RuleDocument.ofJson value = .ok document ∧
        document.FaultsFirst room source fault id ∧ error = .patternFault id source fault := by
  rcases bind_eq_error.mp failure with failure | ⟨document, read, failure⟩
  · exact .inl (RuleDocument.validates_ofJson value error failure)
  · rcases bind_eq_error.mp failure with failure | ⟨rules, -, failure⟩
    · obtain ⟨before, entry, after, rules, entries, accepted, failure⟩ :=
        readRules_eq_error.mp failure
      obtain ⟨-, rfl⟩ | ⟨isNew, failure⟩ := RuleEntry.readRule_eq_error.mp failure
      · exact .inl rfl
      · refine (RuleEntry.faults_of_readDateRule failure).imp_right ?_
        rintro ⟨source, fault, faults, rfl⟩
        exact ⟨document, _, source, fault, read,
          .intro entries accepted (by simpa using isNew) faults, rfl⟩
    · exact absurd failure pure_ne_error

/-- Reading a value as rules fails in a way that is not foreseen if it is a document of the right
shape whose first violation is of this kind, and in no other case. -/
theorem exists_ofJson_error {value : Json} :
    (∃ error, ofJson value room = .error error ∧ error.isForeseen = false) ↔
      ∃ document, RuleDocument.ofJson value = .ok document ∧ document.AsksTooMuch room := by
  simp only [RuleDocument.asksTooMuch_iff]
  constructor
  · rintro ⟨error, failure, unforeseen⟩
    obtain isViolation | ⟨document, id, source, fault, read, first, rfl⟩ :=
      faultsFirst_of_ofJson failure
    · rw [RuleError.isForeseen_of_kind isViolation] at unforeseen
      cases unforeseen
    · exact ⟨document, read, id, source, fault, first,
        RuleError.isForeseen_patternFault.mp unforeseen⟩
  · rintro ⟨document, read, id, source, fault, first, isExcess⟩
    exact ⟨_, ofJson_of_faultsFirst read first, RuleError.isForeseen_patternFault.mpr isExcess⟩

/-- Reading a value as rules gives rules or an error of the kind for violations, unless it is a
document of the right shape whose first violation is a pattern that cannot be used for another
reason than its syntax. -/
theorem ofJson_validates_iff (value : Json) :
    ((∃ rules, ofJson value = .ok rules) ∨
        ∃ error, ofJson value = .error error ∧ error.kind = "RuleValidationError") ↔
      ¬ ∃ document id source fault, RuleDocument.ofJson value = .ok document ∧
        document.FaultsFirst none source fault id ∧ ¬ fault.IsInvalid := by
  constructor
  · rintro outcome ⟨document, id, source, fault, read, first, otherwise⟩
    rw [ofJson_of_faultsFirst read first] at outcome
    obtain ⟨rules, impossible⟩ | ⟨error, failure, isViolation⟩ := outcome
    · cases impossible
    · cases failure
      exact otherwise (RuleError.kind_patternFault.mp isViolation)
  · intro regular
    cases outcome : ofJson value with
    | ok rules => exact .inl ⟨rules, rfl⟩
    | error error =>
      refine .inr ⟨error, rfl, ?_⟩
      obtain isViolation | ⟨document, id, source, fault, read, first, rfl⟩ :=
        faultsFirst_of_ofJson outcome
      · exact isViolation
      · refine RuleError.kind_patternFault.mpr (Classical.byContradiction fun otherwise => ?_)
        exact regular ⟨document, id, source, fault, read, first, otherwise⟩

/-- A document with a rule for events whose summaries have a letter some billions of times. -/
def endlessDocument : Json :=
  .object [
    ("window", .object [("daysBefore", .integer 5), ("daysAfter", .integer 2)]),
    ("priorityOrder", .array [.text "school"]),
    ("events", .array [.object [
      ("id", .text "fair"), ("name", .text "Fair"), ("importance", .text "school"),
      ("themeId", .text "stalls"),
      ("dateRule", .object [("type", .text "calendar"),
        ("calendarMatch", .text "a\x7b4294967295\x7d")])]])]

/-- Not every document gives rules or an error of the kind for violations. -/
theorem exists_refused_otherwise : ¬ ∀ value : Json, (∃ rules, ofJson value = .ok rules) ∨
    ∃ error, ofJson value = .error error ∧ error.kind = "RuleValidationError" := by
  intro validates
  -- Rules cannot be compared, so the outcome is evaluated to its kind only.
  have kind : (match ofJson endlessDocument with
      | .ok _ => none
      | .error error => some error.kind) = some "OverflowError" := by decide +kernel
  rcases validates endlessDocument with ⟨rules, accepted⟩ | ⟨error, failure, isViolation⟩
  · rw [accepted] at kind
    cases kind
  · rw [failure] at kind
    simp [isViolation] at kind

end RuleSet

end Observance

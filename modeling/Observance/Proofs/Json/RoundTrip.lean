import Observance.Proofs.Json.Real
import Observance.Proofs.Json.Text

/-! # Documents that are read back

A value that was written in any layout is read back, if it has no integer that is too long to be
converted and no object with a name twice; a number with a fraction or an exponent is read as a
number again. The reader skips what the layout puts between the parts of a value, so each part is
read as if it stood alone; the induction is on the value, with the elements of an array and the
fields of an object.
-/

namespace Observance.Json

open Observance.Text

mutual

/-- Whether the text of a value is read as a value. -/
def IsLegible (asciiOnly : Bool) : Json → Prop
  | .null | .bool _ => True
  | .text value => isKept asciiOnly value = true
  | .integer value => isReadableInteger value = true
  | .real value => value.IsStandard
  | .array elements => AreLegible asciiOnly elements
  | .object fields => HaveLegible asciiOnly fields

/-- Whether the texts of values are read as values. -/
def AreLegible (asciiOnly : Bool) : List Json → Prop
  | [] => True
  | element :: elements => IsLegible asciiOnly element ∧ AreLegible asciiOnly elements

/-- Whether fields have different names that are read back, and values whose texts are read as
values. -/
def HaveLegible (asciiOnly : Bool) : List (Text × Json) → Prop
  | [] => True
  | (name, value) :: fields =>
    (name ∉ fields.map Prod.fst ∧ isKept asciiOnly name = true) ∧
      IsLegible asciiOnly value ∧ HaveLegible asciiOnly fields

end

mutual

/-- The value that the text of a value is read as. -/
def reread : Json → Json
  | .real value => .real (rereadReal value)
  | .array elements => .array (rereadElements elements)
  | .object fields => .object (rereadFields fields)
  | value => value

/-- The values that the texts of values are read as. -/
def rereadElements : List Json → List Json
  | [] => []
  | element :: elements => reread element :: rereadElements elements

def rereadFields : List (Text × Json) → List (Text × Json)
  | [] => []
  | (name, value) :: fields => (name, reread value) :: rereadFields fields

end

section Space

theorem skipSpace_cons {c : CodePoint} (rest : Text) (visible : isSpace c = false) :
    skipSpace (c :: rest) = c :: rest := by
  simp [skipSpace, visible]

/-- A line break is skipped. -/
theorem skipSpace_lineBreak (layout : Layout) (level : Nat) (rest : Text) :
    skipSpace (lineBreak layout level ++ rest) = skipSpace rest := by
  unfold lineBreak
  split
  · rfl
  · next width _ =>
    have spaces : ∀ c ∈ .char '\n' :: List.replicate (width * level) (.char ' '),
        isSpace c = true := by
      intro c member
      rcases List.mem_cons.mp member with rfl | member
      · rfl
      · rw [List.eq_of_mem_replicate member]
        rfl
    exact List.dropWhile_append_of_pos spaces

/-- A separator is a comma and what is skipped after it. -/
theorem separator_append (layout : Layout) (level : Nat) (rest : Text) :
    ∃ gap, separator layout level ++ rest = .char ',' :: gap ∧ skipSpace gap = skipSpace rest := by
  unfold separator
  split
  · exact ⟨.char ' ' :: rest, rfl, rfl⟩
  · exact ⟨lineBreak layout level ++ rest, rfl, skipSpace_lineBreak layout level rest⟩

theorem length_separator_pos (layout : Layout) (level : Nat) :
    0 < (separator layout level).length := by
  unfold separator
  split <;> simp

theorem endsNumber_lineBreak (layout : Layout) (level : Nat) (rest : Text)
    (ends : endsNumber rest = true) : endsNumber (lineBreak layout level ++ rest) = true := by
  unfold lineBreak
  split
  · exact ends
  · rfl

theorem endsNumber_separator (layout : Layout) (level : Nat) (rest : Text) :
    endsNumber (separator layout level ++ rest) = true := by
  obtain ⟨gap, begins, _⟩ := separator_append layout level rest
  rw [begins]
  rfl

end Space

section Front

/-- Whether characters begin as a value does: with no blank, no closing bracket, and no byte order
mark. -/
def beginsValue : Text → Bool
  | [] => false
  | c :: _ => !isSpace c && c != ']' && c != '\uFEFF'

theorem skipSpace_of_begins {input : Text} (begins : beginsValue input = true) :
    skipSpace input = input := by
  cases input with
  | nil => rfl
  | cons c rest =>
    simp only [beginsValue, Bool.and_eq_true, Bool.not_eq_true'] at begins
    exact skipSpace_cons rest begins.1.1

/-- Whether a value that is a word or a number may begin with a character. -/
def beginsPlain (c : CodePoint) : Bool := c == '-' || c == 'N' || c == 'I' || isAsciiDigit c

theorem beginsPlain_signed (negative : Bool) {d : CodePoint} (digits : Text)
    (digit : isAsciiDigit d = true) :
    ∃ c rest, signed negative (d :: digits) = c :: rest ∧ beginsPlain c = true := by
  cases negative with
  | false => exact ⟨d, digits, rfl, by simp [beginsPlain, digit]⟩
  | true => exact ⟨.char '-', d :: digits, rfl, rfl⟩

theorem writeInteger_eq_cons (value : Int) :
    ∃ c rest, writeInteger value = c :: rest ∧ beginsPlain c = true := by
  obtain ⟨d, digits, written, digit⟩ := numeral_eq_digit_cons value.natAbs
  rw [writeInteger_eq_signed, written]
  exact beginsPlain_signed _ digits digit

theorem text_eq_cons {value : Binary64} (standard : value.IsStandard) :
    ∃ c rest, value.text "Infinity" "NaN" = c :: rest ∧ beginsPlain c = true := by
  cases value with
  | nan => exact ⟨.char 'N', _, rfl, rfl⟩
  | infinite negative =>
    cases negative with
    | false => exact ⟨.char 'I', _, rfl, rfl⟩
    | true => exact ⟨.char '-', _, rfl, rfl⟩
  | finite negative significand exponent =>
    obtain ⟨parts, written⟩ := exists_parts_text standard "Infinity" "NaN"
    obtain ⟨d, digits, front, digit⟩ := parts.text_eq_cons
    rw [written, front]
    exact beginsPlain_signed _ digits digit

theorem ne_of_beginsPlain {c : CodePoint} (plain : beginsPlain c = true) :
    c ≠ '"' ∧ c ≠ '{' ∧ c ≠ '[' ∧ isSpace c = false ∧ c ≠ ']' ∧ c ≠ '\uFEFF' := by
  simp only [beginsPlain, Bool.or_eq_true, beq_iff_eq] at plain
  rcases plain with ((rfl | rfl) | rfl) | digit
  · decide
  · decide
  · decide
  · obtain ⟨d, bound, rfl⟩ := (isAsciiDigit_iff c).mp digit
    revert d
    decide

theorem beginsValue_of_beginsPlain {c : CodePoint} (plain : beginsPlain c = true) (rest : Text) :
    beginsValue (c :: rest) = true := by
  obtain ⟨-, -, -, visible, notBracket, notMark⟩ := ne_of_beginsPlain plain
  simp [beginsValue, visible, notBracket, notMark]

theorem beginsValue_writeValue (layout : Layout) (level : Nat) {value : Json}
    (legible : IsLegible layout.asciiOnly value) (rest : Text) :
    beginsValue (writeValue layout level value ++ rest) = true := by
  cases value with
  | null => rfl
  | bool value => cases value <;> rfl
  | integer value =>
    obtain ⟨c, digits, written, plain⟩ := writeInteger_eq_cons value
    rw [writeValue, written]
    exact beginsValue_of_beginsPlain plain _
  | real value =>
    obtain ⟨c, digits, written, plain⟩ := text_eq_cons (show value.IsStandard from legible)
    rw [writeValue, written]
    exact beginsValue_of_beginsPlain plain _
  | text value => rw [writeValue]; rfl
  | array elements => cases elements <;> rw [writeValue] <;> rfl
  | object fields => cases fields <;> rw [writeValue] <;> rfl

end Front

section Steps

variable {fuel : Nat}

theorem readValue_array {inside after : Text} {elements : List Json} (layout : Layout)
    (level : Nat) (begins : beginsValue inside = true)
    (success : readElements none fuel inside = .ok (elements, after)) :
    readValue none (fuel + 1) (.char '[' :: lineBreak layout level ++ inside) =
      .ok (.array elements, after) := by
  rw [List.cons_append, readValue, Room.enter?_none]
  simp only [skipSpace_lineBreak, skipSpace_of_begins begins]
  split
  · simp [beginsValue] at begins
  · rw [success]

theorem readElements_last {input afterElement after : Text} {element : Json}
    (read : readValue none fuel input = .ok (element, afterElement))
    (closed : skipSpace afterElement = .char ']' :: after) :
    readElements none (fuel + 1) input = .ok ([element], after) := by
  simp only [readElements, read, closed]

theorem readElements_more {input afterElement gap inside after : Text} {element : Json}
    {elements : List Json} (read : readValue none fuel input = .ok (element, afterElement))
    (continued : skipSpace afterElement = .char ',' :: gap) (skipped : skipSpace gap = inside)
    (success : readElements none fuel inside = .ok (elements, after)) :
    readElements none (fuel + 1) input = .ok (element :: elements, after) := by
  simp only [readElements, read, continued, skipped, success]

theorem readValue_object {inside after : Text} {fields : Fields} (layout : Layout)
    (level : Nat) (success : readFields none fuel [] (.char '"' :: inside) = .ok (fields, after)) :
    readValue none (fuel + 1) (.char '{' :: lineBreak layout level ++ .char '"' :: inside) =
      .ok (.object fields, after) := by
  rw [List.cons_append, readValue, Room.enter?_none]
  simp only [skipSpace_lineBreak, skipSpace_cons inside (show isSpace '"' = false from rfl)]
  split
  · next same => cases same
  · rw [success]

theorem readFields_last {input afterName afterValue after : Text} {name : Text}
    {value : Json} (earlier : Fields)
    (readName : readText input = .ok (name, .char ':' :: .char ' ' :: afterName))
    (begins : beginsValue afterName = true)
    (read : readValue none fuel afterName = .ok (value, afterValue))
    (closed : skipSpace afterValue = .char '}' :: after) :
    readFields none (fuel + 1) earlier (.char '"' :: input) =
      .ok (earlier.put name value, after) := by
  have skipped : skipSpace (.char ' ' :: afterName) = afterName := skipSpace_of_begins begins
  have colon : skipSpace (.char ':' :: .char ' ' :: afterName) =
      .char ':' :: .char ' ' :: afterName := skipSpace_cons _ rfl
  simp only [readFields, readName, colon, skipped, read, closed]

theorem readFields_more {input afterName afterValue gap inside after : Text} {name : Text}
    {value : Json} {fields : Fields} (earlier : Fields)
    (readName : readText input = .ok (name, .char ':' :: .char ' ' :: afterName))
    (begins : beginsValue afterName = true)
    (read : readValue none fuel afterName = .ok (value, afterValue))
    (continued : skipSpace afterValue = .char ',' :: gap) (skipped : skipSpace gap = inside)
    (success : readFields none fuel (earlier.put name value) inside = .ok (fields, after)) :
    readFields none (fuel + 1) earlier (.char '"' :: input) = .ok (fields, after) := by
  have blank : skipSpace (.char ' ' :: afterName) = afterName := skipSpace_of_begins begins
  have colon : skipSpace (.char ':' :: .char ' ' :: afterName) =
      .char ':' :: .char ' ' :: afterName := skipSpace_cons _ rfl
  simp only [readFields, readName, colon, blank, read, continued, skipped, success]

theorem readValue_plain {c : CodePoint} {rest : Text} (plain : beginsPlain c = true) :
    readValue none (fuel + 1) (c :: rest) = readPlain (c :: rest) := by
  obtain ⟨notQuote, notBrace, notBracket, -⟩ := ne_of_beginsPlain plain
  rw [readValue]
  · exact List.cons_ne_nil _ _
  · exact fun _ same => notQuote (List.cons.inj same).1
  · exact fun _ same => notBrace (List.cons.inj same).1
  · exact fun _ same => notBracket (List.cons.inj same).1

theorem readValue_writeInteger {value : Int} {rest : Text}
    (readable : isReadableInteger value = true) (ends : endsNumber rest = true) :
    readValue none (fuel + 1) (writeInteger value ++ rest) = .ok (.integer value, rest) := by
  have read := readPlain_writeInteger readable ends
  obtain ⟨c, digits, written, plain⟩ := writeInteger_eq_cons value
  rw [written, List.cons_append] at read ⊢
  rw [readValue_plain plain, read]

theorem readValue_text {value : Binary64} {rest : Text} (standard : value.IsStandard)
    (ends : endsNumber rest = true) :
    readValue none (fuel + 1) (value.text "Infinity" "NaN" ++ rest) =
      .ok (.real (rereadReal value), rest) := by
  have read := readPlain_text standard ends
  obtain ⟨c, digits, written, plain⟩ := text_eq_cons standard
  rw [written, List.cons_append] at read ⊢
  rw [readValue_plain plain, read]

theorem readValue_writeText {asciiOnly : Bool} {value : Text} (rest : Text)
    (kept : isKept asciiOnly value = true) :
    readValue none (fuel + 1) (writeText asciiOnly value ++ rest) = .ok (.text value, rest) := by
  obtain ⟨characters, written, read⟩ := readText_writeText asciiOnly rest kept
  rw [written, readValue, read]

end Steps

theorem put_of_new {fields : Fields} {name : Text} (value : Json)
    (new : name ∉ fields.map Prod.fst) : fields.put name value = fields ++ [(name, value)] := by
  induction fields with
  | nil => rfl
  | cons field fields ih =>
    simp only [List.map_cons, List.mem_cons, not_or] at new
    simp [Fields.put, ih new.2, Ne.symm new.1]

theorem length_writeValue_pos (layout : Layout) (level : Nat) {value : Json}
    (legible : IsLegible layout.asciiOnly value) : 0 < (writeValue layout level value).length := by
  have begins := beginsValue_writeValue layout level legible []
  rw [List.append_nil] at begins
  exact List.length_pos_iff.mpr fun empty => by simp [empty, beginsValue] at begins

section Fuel

/-- Values that were written in at most as many characters as there is fuel are read back. -/
def ReadsValues (layout : Layout) (fuel : Nat) : Prop :=
  ∀ (level : Nat) (value : Json) (rest : Text), IsLegible layout.asciiOnly value →
    endsNumber rest = true → (writeValue layout level value).length ≤ fuel →
      readValue none fuel (writeValue layout level value ++ rest) = .ok (reread value, rest)

/-- The elements of an array are read back up to its closing bracket. -/
def ReadsElements (layout : Layout) (fuel : Nat) : Prop :=
  ∀ (level outer : Nat) (element : Json) (elements : List Json) (rest : Text),
    IsLegible layout.asciiOnly element → AreLegible layout.asciiOnly elements →
    (writeValue layout level element ++ writeElements layout level elements).length < fuel →
      readElements none fuel (writeValue layout level element ++
        (writeElements layout level elements ++ (lineBreak layout outer ++ .char ']' :: rest))) =
          .ok (reread element :: rereadElements elements, rest)

/-- The fields of an object are read back up to its closing brace, after those that were read
before. -/
def ReadsFields (layout : Layout) (fuel : Nat) : Prop :=
  ∀ (level outer : Nat) (earlier : Fields) (name : Text) (value : Json) (fields : Fields)
    (rest : Text), HaveLegible layout.asciiOnly ((name, value) :: fields) →
    (∀ other ∈ name :: fields.map Prod.fst, other ∉ earlier.map Prod.fst) →
    (writeText layout.asciiOnly name ++ (writeValue layout level value ++
      writeFields layout level fields)).length < fuel →
      readFields none fuel earlier (writeText layout.asciiOnly name ++ (.char ':' :: .char ' ' ::
        writeValue layout level value ++ (writeFields layout level fields ++
          (lineBreak layout outer ++ .char '}' :: rest)))) =
            .ok (earlier ++ (name, reread value) :: rereadFields fields, rest)

variable {layout : Layout} {fuel : Nat}

theorem readsValues_succ (readsElements : ReadsElements layout fuel)
    (readsFields : ReadsFields layout fuel) : ReadsValues layout (fuel + 1) := by
  intro level value rest legible ends enough
  cases value with
  | null => rfl
  | bool value => cases value <;> rfl
  | integer value => exact readValue_writeInteger legible ends
  | real value => exact readValue_text legible ends
  | text value => exact readValue_writeText rest legible
  | array elements =>
    cases elements with
    | nil => rfl
    | cons element elements =>
      simp only [writeValue, List.length_append, List.length_cons] at enough
      have inside := readsElements (level + 1) level element elements rest legible.1 legible.2
        (by rw [List.length_append]; omega)
      have begins := beginsValue_writeValue layout (level + 1) legible.1
      simpa [writeValue, reread, rereadElements, List.append_assoc] using
        readValue_array layout (level + 1) (begins _) inside
  | object fields =>
    cases fields with
    | nil => rfl
    | cons field fields =>
      obtain ⟨name, value⟩ := field
      simp only [writeValue, List.length_append, List.length_cons] at enough
      have inside := readsFields (level + 1) level [] name value fields rest legible (by simp)
        (by simp only [List.length_append]; omega)
      obtain ⟨characters, written, _⟩ := readText_writeText layout.asciiOnly
        (.char ':' :: .char ' ' :: writeValue layout (level + 1) value ++
          (writeFields layout (level + 1) fields ++
            (lineBreak layout level ++ .char '}' :: rest))) legible.1.2
      rw [written] at inside
      have whole := readValue_object layout (level + 1) inside
      rw [← written] at whole
      simpa [writeValue, reread, rereadFields, List.append_assoc] using whole

theorem readsElements_succ (readsValues : ReadsValues layout fuel)
    (readsElements : ReadsElements layout fuel) : ReadsElements layout (fuel + 1) := by
  intro level outer element elements rest legible others enough
  rw [List.length_append] at enough
  cases elements with
  | nil =>
    have ends := endsNumber_lineBreak layout outer (.char ']' :: rest) rfl
    have read := readsValues level element _ legible ends (by omega)
    exact readElements_last read (skipSpace_lineBreak layout outer _)
  | cons next elements =>
    simp only [writeElements, List.length_append] at enough
    have := length_separator_pos layout level
    -- What follows the element: a separator, and the elements from the next one on.
    obtain ⟨inside, isInside⟩ : ∃ inside, writeValue layout level next ++
        (writeElements layout level elements ++ (lineBreak layout outer ++ .char ']' :: rest)) =
          inside := ⟨_, rfl⟩
    have later := readsElements level outer next elements rest others.1 others.2
      (by rw [List.length_append]; omega)
    have begins := beginsValue_writeValue layout level others.1
      (writeElements layout level elements ++ (lineBreak layout outer ++ .char ']' :: rest))
    rw [isInside] at later begins
    obtain ⟨gap, continued, skipped⟩ := separator_append layout level inside
    rw [skipSpace_of_begins begins] at skipped
    have ends := endsNumber_separator layout level inside
    have read := readsValues level element _ legible ends (by omega)
    rw [writeElements, List.append_assoc, List.append_assoc, isInside]
    exact readElements_more read (by rw [continued]; rfl) skipped later

theorem readsFields_succ (readsValues : ReadsValues layout fuel)
    (readsFields : ReadsFields layout fuel) : ReadsFields layout (fuel + 1) := by
  intro level outer earlier name value fields rest legible new enough
  obtain ⟨⟨distinct, kept⟩, legibleValue, others⟩ := legible
  simp only [List.length_append] at enough
  have put := put_of_new (reread value) (new name (List.mem_cons_self ..))
  have begins := beginsValue_writeValue layout level legibleValue
  cases fields with
  | nil =>
    obtain ⟨characters, written, readName⟩ := readText_writeText layout.asciiOnly
      (.char ':' :: .char ' ' ::
        (writeValue layout level value ++ (lineBreak layout outer ++ .char '}' :: rest))) kept
    have ends := endsNumber_lineBreak layout outer (.char '}' :: rest) rfl
    have read := readsValues level value _ legibleValue ends (by omega)
    have whole := readFields_last earlier readName (begins _) read
      (skipSpace_lineBreak layout outer _)
    rw [← written, put] at whole
    exact whole
  | cons field fields =>
    obtain ⟨nextName, next⟩ := field
    simp only [writeFields, List.length_append] at enough
    have := length_separator_pos layout level
    have unused : ∀ other ∈ nextName :: fields.map Prod.fst,
        other ∉ (earlier ++ [(name, reread value)]).map Prod.fst := by
      intro other member
      rw [List.map_append, List.mem_append, not_or]
      refine ⟨new other (List.mem_cons_of_mem _ member), fun same => distinct ?_⟩
      obtain rfl : other = name := by simpa using same
      exact member
    have later := readsFields level outer (earlier ++ [(name, reread value)])
      nextName next fields rest
      others unused (by simp only [List.length_append]; omega)
    rw [List.append_assoc, List.singleton_append, ← put] at later
    -- What follows the value: a separator, and the fields from the next one on.
    obtain ⟨inside, isInside⟩ : ∃ inside, writeText layout.asciiOnly nextName ++
      (.char ':' :: .char ' ' :: writeValue layout level next ++ (writeFields layout level fields ++
        (lineBreak layout outer ++ .char '}' :: rest))) = inside := ⟨_, rfl⟩
    have quoted : skipSpace inside = inside := by
      rw [← isInside]
      exact skipSpace_cons _ rfl
    rw [isInside] at later
    obtain ⟨gap, continued, skipped⟩ := separator_append layout level inside
    obtain ⟨characters, written, readName⟩ := readText_writeText layout.asciiOnly
      (.char ':' :: .char ' ' :: (writeValue layout level value ++
        (separator layout level ++ inside)))
      kept
    have ends := endsNumber_separator layout level inside
    have read := readsValues level value _ legibleValue ends (by omega)
    have whole := readFields_more earlier readName (begins _) read (by rw [continued]; rfl)
      (skipped.trans quoted) later
    rw [← written, ← isInside] at whole
    simpa [writeFields, rereadFields, List.append_assoc] using whole

/-- Fuel for every character is enough, because every call takes at least one of them. -/
theorem reads (layout : Layout) (fuel : Nat) :
    ReadsValues layout fuel ∧ ReadsElements layout fuel ∧ ReadsFields layout fuel := by
  induction fuel with
  | zero =>
    refine ⟨?_, ?_, ?_⟩
    · intro level value rest legible _ enough
      have := length_writeValue_pos layout level legible
      omega
    · intro level outer element elements rest _ _ enough
      omega
    · intro level outer earlier name value fields rest _ _ enough
      omega
  | succ fuel ih =>
    obtain ⟨values, elements, fields⟩ := ih
    exact ⟨readsValues_succ elements fields, readsElements_succ values elements,
      readsFields_succ values fields⟩

end Fuel

/-- The text of a value is read as the value, whatever it stands before. -/
theorem readValue_writeValue (layout : Layout) (level fuel : Nat) {value : Json}
    (rest : Text) (legible : IsLegible layout.asciiOnly value) (ends : endsNumber rest = true)
    (enough : (writeValue layout level value).length ≤ fuel) :
    readValue none fuel (writeValue layout level value ++ rest) = .ok (reread value, rest) :=
  (reads layout fuel).1 level value rest legible ends enough

/-- A document that was written is read, also with blanks after it. -/
theorem read_write_append (layout : Layout) {value : Json} (blanks : Text)
    (legible : IsLegible layout.asciiOnly value) (blank : ∀ c ∈ blanks, isSpace c = true) :
    read ((writeValue layout 0 value ++ blanks)) = .ok (reread value) := by
  have front := beginsValue_writeValue layout 0 legible blanks
  have ends : endsNumber blanks = true := by
    cases blanks with
    | nil => rfl
    | cons c blanks =>
      have space := blank c (List.mem_cons_self ..)
      simp only [isSpace, Bool.or_eq_true, beq_iff_eq] at space
      rcases space with ((rfl | rfl) | rfl) | rfl <;> rfl
  have success := readValue_writeValue layout 0
    (2 * (writeValue layout 0 value ++ blanks).length + 2) blanks legible ends
    (by rw [List.length_append]; omega)
  have skipped : skipSpace blanks = [] := List.dropWhile_eq_nil_iff.mpr blank
  rw [read, if_neg, readDocument, skipSpace_of_begins front]
  · simp only [success, skipped]
    rfl
  · intro mark
    obtain ⟨rest, same⟩ := List.head?_eq_some_iff.mp (eq_of_beq mark)
    rw [same] at front
    exact absurd front (by simp [beginsValue])

theorem read_write_legible (layout : Layout) {value : Json}
    (legible : IsLegible layout.asciiOnly value) :
    read (value.write layout) = .ok (reread value) := by
  simpa [write] using read_write_append layout [] legible (List.forall_mem_nil _)

section Readable

mutual

/-- Whether a value is one that is read back from its text as it was. -/
def isReadable (asciiOnly : Bool) : Json → Bool
  | .null | .bool _ => true
  | .text value => isKept asciiOnly value
  | .integer value => isReadableInteger value
  | .real _ => false
  | .array elements => areReadable asciiOnly elements
  | .object fields => haveReadable asciiOnly fields

/-- Whether values are read back from their texts as they were. -/
def areReadable (asciiOnly : Bool) : List Json → Bool
  | [] => true
  | element :: elements => isReadable asciiOnly element && areReadable asciiOnly elements

/-- Whether fields have different names, and names and values are read back from their texts. -/
def haveReadable (asciiOnly : Bool) : List (Text × Json) → Bool
  | [] => true
  | (name, value) :: fields =>
    !(fields.map Prod.fst).contains name && isKept asciiOnly name && isReadable asciiOnly value &&
      haveReadable asciiOnly fields

end

variable {asciiOnly : Bool}

mutual

theorem reread_of_isReadable {value : Json} (readable : isReadable asciiOnly value = true) :
    IsLegible asciiOnly value ∧ reread value = value := by
  cases value with
  | null => exact ⟨trivial, rfl⟩
  | bool value => exact ⟨trivial, rfl⟩
  | text value => exact ⟨readable, rfl⟩
  | integer value => exact ⟨readable, rfl⟩
  | real value => cases readable
  | array elements =>
    obtain ⟨legible, same⟩ :=
      rereadElements_of_areReadable (show areReadable asciiOnly elements = true from readable)
    exact ⟨legible, congrArg Json.array same⟩
  | object fields =>
    obtain ⟨legible, same⟩ :=
      rereadFields_of_haveReadable (show haveReadable asciiOnly fields = true from readable)
    exact ⟨legible, congrArg Json.object same⟩

theorem rereadElements_of_areReadable {elements : List Json}
    (readable : areReadable asciiOnly elements = true) :
    AreLegible asciiOnly elements ∧ rereadElements elements = elements := by
  cases elements with
  | nil => exact ⟨trivial, rfl⟩
  | cons element elements =>
    rw [areReadable, Bool.and_eq_true] at readable
    obtain ⟨legible, same⟩ := reread_of_isReadable readable.1
    obtain ⟨others, unchanged⟩ := rereadElements_of_areReadable readable.2
    exact ⟨⟨legible, others⟩, by rw [rereadElements, same, unchanged]⟩

theorem rereadFields_of_haveReadable {fields : List (Text × Json)}
    (readable : haveReadable asciiOnly fields = true) :
    HaveLegible asciiOnly fields ∧ rereadFields fields = fields := by
  cases fields with
  | nil => exact ⟨trivial, rfl⟩
  | cons field fields =>
    obtain ⟨name, value⟩ := field
    simp only [haveReadable, Bool.and_eq_true, Bool.not_eq_true', List.contains_eq_mem,
      decide_eq_false_iff_not] at readable
    obtain ⟨legible, same⟩ := reread_of_isReadable readable.1.2
    obtain ⟨others, unchanged⟩ := rereadFields_of_haveReadable readable.2
    exact ⟨⟨readable.1.1, legible, others⟩, by rw [rereadFields, same, unchanged]⟩

end

/-- A document that was written is read back, also with a line feed after it. -/
theorem read_write (layout : Layout) {value : Json}
    (readable : isReadable layout.asciiOnly value = true) :
    read (value.write layout ++ "\n") = .ok value := by
  obtain ⟨legible, same⟩ := reread_of_isReadable readable
  have blank : ∀ c ∈ [CodePoint.char '\n'], isSpace c = true := by
    intro c member
    rw [List.mem_singleton.mp member]
    rfl
  have success := read_write_append layout [.char '\n'] legible blank
  rw [same] at success
  rw [← success]
  rfl

end Readable

end Observance.Json

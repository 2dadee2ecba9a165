import Mathlib.Data.List.Nodup
import Observance.Proofs.Json.Plain
import Observance.Proofs.Json.Unpaired

/-! # What is read can be written

Every value that is read from a text of characters is one whose own text is read again: its integers
were converted, its numbers are numbers of the format, its texts have no pairs of halves, and a name
that an object had twice has its last value. Putting a field into an object, or the fields of
objects in the order of their names, keeps that. So a document can be read, changed and written any
number of times. A value in which no number has a fraction or an exponent is even read just as it
was.
-/

namespace Observance.Json

open Text

section Fields

variable {asciiOnly : Bool} {fields : Fields} {name : Text} {value : Json}

theorem haveLegible_iff :
    HaveLegible asciiOnly fields ↔
      (fields.map Prod.fst).Nodup ∧
        ∀ field ∈ fields, isKept asciiOnly field.1 = true ∧ IsLegible asciiOnly field.2 := by
  induction fields with
  | nil => simp [HaveLegible]
  | cons field fields ih =>
    simp only [HaveLegible, ih, List.map_cons, List.nodup_cons, List.forall_mem_cons]
    tauto

theorem mem_put {field : Text × Json} (member : field ∈ fields.put name value) :
    field = (name, value) ∨ field ∈ fields := by
  induction fields with
  | nil => exact .inl (List.mem_singleton.mp member)
  | cons first fields ih =>
    unfold Fields.put at member
    split at member
    · rcases List.mem_cons.mp member with same | later
      · exact .inl same
      · exact .inr (List.mem_cons_of_mem _ later)
    · rcases List.mem_cons.mp member with same | later
      · exact .inr (same ▸ List.mem_cons_self ..)
      · exact (ih later).imp_right (List.mem_cons_of_mem _)

theorem map_fst_put_of_mem (used : name ∈ fields.map Prod.fst) :
    (fields.put name value).map Prod.fst = fields.map Prod.fst := by
  induction fields with
  | nil => cases used
  | cons first fields ih =>
    unfold Fields.put
    split
    next same => simp [eq_of_beq same]
    next other =>
      have later : name ∈ fields.map Prod.fst := by
        rcases List.mem_cons.mp used with rfl | later
        · simp at other
        · exact later
      rw [List.map_cons, List.map_cons, ih later]

/-- Setting a field does not use a name twice. -/
theorem nodup_put (distinct : (fields.map Prod.fst).Nodup) :
    ((fields.put name value).map Prod.fst).Nodup := by
  by_cases used : name ∈ fields.map Prod.fst
  · rwa [map_fst_put_of_mem used]
  · rw [put_of_new value used, List.map_append]
    exact distinct.append (List.nodup_singleton _) (by simpa using used)

theorem haveLegible_put (legible : HaveLegible asciiOnly fields)
    (kept : isKept asciiOnly name = true) (legibleValue : IsLegible asciiOnly value) :
    HaveLegible asciiOnly (fields.put name value) := by
  obtain ⟨distinct, values⟩ := haveLegible_iff.mp legible
  refine haveLegible_iff.mpr ⟨nodup_put distinct, fun field member => ?_⟩
  rcases mem_put member with rfl | member
  · exact ⟨kept, legibleValue⟩
  · exact values field member

end Fields

section Reader

variable {asciiOnly : Bool} {room : Room} {fuel : Nat} {input rest : Text}

theorem isAsciiDigit_of_splitWhole {whole : Text} (split : splitWhole input = (whole, rest)) :
    ∀ c ∈ whole, isAsciiDigit c = true := by
  unfold splitWhole at split
  split at split
  · cases split
    exact fun _ => isAsciiDigit_of_mem_zero
  · rw [spanDigits, List.span_eq_takeWhile_dropWhile] at split
    cases split
    exact fun c => List.mem_takeWhile_imp

/-- An integer that was converted has no more digits than are converted. -/
theorem isReadableInteger_of_digitsToNat {digits : Text} {size : Nat} (negative : Bool)
    (ascii : ∀ c ∈ digits, isAsciiDigit c = true) (converted : digitsToNat digits = .ok size) :
    isReadableInteger (if negative then -(size : Int) else size) = true := by
  unfold digitsToNat at converted
  split at converted
  · cases converted
  next few =>
    cases converted
    have bound : digitsValue digits < 10 ^ maxIntegerDigits :=
      Nat.lt_of_lt_of_le (digitsValue_lt ascii)
        (Nat.pow_le_pow_right (by decide) (Nat.le_of_not_lt few))
    have size : (if negative then -(digitsValue digits : Int) else digitsValue digits).natAbs =
        digitsValue digits := by split <;> omega
    rw [isReadableInteger, decide_eq_true_eq, size]
    exact length_numeral_le (by decide) bound

theorem isLegible_of_readNumber {value : Json} (success : readNumber input = .ok (value, rest)) :
    IsLegible asciiOnly value := by
  unfold readNumber at success
  dsimp only at success
  split at success
  · cases success
  · split at success
    · cases converted : digitsToNat (splitWhole (splitMinus input).2).1 with
      | error error =>
        rw [converted] at success
        cases success
      | ok size =>
        rw [converted] at success
        cases success
        exact isReadableInteger_of_digitsToNat _ (isAsciiDigit_of_splitWhole rfl) converted
    · cases success
      exact Binary64.isStandard_ofDecimal ..

theorem isLegible_of_readPlain {value : Json} (success : readPlain input = .ok (value, rest)) :
    IsLegible asciiOnly value := by
  unfold readPlain at success
  split at success
  next word found isWord =>
    cases success
    have member := List.mem_of_find?_eq_some isWord
    have table : ∀ word ∈ words, IsLegible asciiOnly word.2 := by
      simp [words, IsLegible, Binary64.IsStandard]
    exact table _ member
  · exact isLegible_of_readNumber success

theorem isKept_of_isUnpaired {value : Text} (unpaired : value.isUnpaired = true) :
    isKept asciiOnly value = true := by
  rw [isKept, unpaired, Bool.or_true]

/-- Values, fields and elements that are read from characters with some fuel are legible, and what
follows them are characters. -/
structure ReadsLegible (asciiOnly : Bool) (fuel : Nat) : Prop where
  value {room : Room} {input rest : Text} {value : Json} : input.isWhole = true →
    readValue room fuel input = .ok (value, rest) → IsLegible asciiOnly value ∧ rest <:+ input
  fields {room : Room} {earlier fields : Fields} {input rest : Text} : input.isWhole = true →
    HaveLegible asciiOnly earlier → readFields room fuel earlier input = .ok (fields, rest) →
      HaveLegible asciiOnly fields ∧ rest <:+ input
  elements {room : Room} {input rest : Text} {elements : List Json} : input.isWhole = true →
    readElements room fuel input = .ok (elements, rest) →
      AreLegible asciiOnly elements ∧ rest <:+ input

theorem isLegible_of_readValue_succ (reads : ReadsLegible asciiOnly fuel) {value : Json}
    (whole : input.isWhole = true) (success : readValue room (fuel + 1) input = .ok (value, rest)) :
    IsLegible asciiOnly value ∧ rest <:+ input := by
  unfold readValue at success
  split at success
  · cases success
  next after =>
    split at success
    · cases success
    next value rest read =>
      cases success
      have text := readsUnpaired_of_readText (isWhole_of_suffix (List.suffix_cons ..) whole) read
      exact ⟨isKept_of_isUnpaired text.unpaired, text.rest.trans (List.suffix_cons ..)⟩
  next after =>
    have follows := (skipSpace_suffix after).trans (List.suffix_cons (.char '{') after)
    split at success
    · cases success
    · split at success
      next closed =>
        cases success
        rw [closed] at follows
        exact ⟨trivial, (List.suffix_cons ..).trans follows⟩
      · split at success
        · cases success
        next fields rest read =>
          cases success
          obtain ⟨legible, suffix⟩ := reads.fields (isWhole_of_suffix follows whole)
            (show HaveLegible asciiOnly [] from trivial) read
          exact ⟨legible, suffix.trans follows⟩
  next after =>
    have follows := (skipSpace_suffix after).trans (List.suffix_cons (.char '[') after)
    split at success
    · cases success
    · split at success
      next closed =>
        cases success
        rw [closed] at follows
        exact ⟨trivial, (List.suffix_cons ..).trans follows⟩
      · split at success
        · cases success
        next elements rest read =>
          cases success
          obtain ⟨legible, suffix⟩ := reads.elements (isWhole_of_suffix follows whole) read
          exact ⟨legible, suffix.trans follows⟩
  · exact ⟨isLegible_of_readPlain success, readPlain_suffix success⟩

theorem haveLegible_of_readFields_succ (reads : ReadsLegible asciiOnly fuel)
    {earlier fields : Fields} (whole : input.isWhole = true)
    (legible : HaveLegible asciiOnly earlier)
    (success : readFields room (fuel + 1) earlier input = .ok (fields, rest)) :
    HaveLegible asciiOnly fields ∧ rest <:+ input := by
  unfold readFields at success
  split at success
  next after =>
    split at success
    · cases success
    next name afterName read =>
      have text := readsUnpaired_of_readText (isWhole_of_suffix (List.suffix_cons ..) whole) read
      have afterName := (skipSpace_suffix afterName).trans
        (text.rest.trans (List.suffix_cons (.char '"') after))
      split at success
      next afterColon colon =>
        rw [colon] at afterName
        have beforeValue := (skipSpace_suffix afterColon).trans
          ((List.suffix_cons ..).trans afterName)
        split at success
        · cases success
        next value afterValue read =>
          obtain ⟨legibleValue, suffix⟩ := reads.value (isWhole_of_suffix beforeValue whole) read
          have added : HaveLegible asciiOnly (earlier.put name value) :=
            haveLegible_put legible (isKept_of_isUnpaired text.unpaired) legibleValue
          have follows := (skipSpace_suffix afterValue).trans (suffix.trans beforeValue)
          split at success
          next closed =>
            cases success
            rw [closed] at follows
            exact ⟨added, (List.suffix_cons ..).trans follows⟩
          next afterComma comma =>
            rw [comma] at follows
            have beforeNext := (skipSpace_suffix afterComma).trans
              ((List.suffix_cons ..).trans follows)
            obtain ⟨legible, suffix⟩ :=
              reads.fields (isWhole_of_suffix beforeNext whole) added success
            exact ⟨legible, suffix.trans beforeNext⟩
          · cases success
      · cases success
  · cases success

theorem areLegible_of_readElements_succ (reads : ReadsLegible asciiOnly fuel)
    {elements : List Json} (whole : input.isWhole = true)
    (success : readElements room (fuel + 1) input = .ok (elements, rest)) :
    AreLegible asciiOnly elements ∧ rest <:+ input := by
  unfold readElements at success
  split at success
  · cases success
  next element after read =>
    obtain ⟨first, suffix⟩ := reads.value whole read
    have follows := (skipSpace_suffix after).trans suffix
    split at success
    next closed =>
      cases success
      rw [closed] at follows
      exact ⟨⟨first, trivial⟩, (List.suffix_cons ..).trans follows⟩
    next afterComma comma =>
      rw [comma] at follows
      have beforeNext := (skipSpace_suffix afterComma).trans ((List.suffix_cons ..).trans follows)
      split at success
      · cases success
      next elements rest others =>
        cases success
        obtain ⟨legible, suffix⟩ := reads.elements (isWhole_of_suffix beforeNext whole) others
        exact ⟨⟨first, legible⟩, suffix.trans beforeNext⟩
    · cases success

theorem readsLegible (asciiOnly : Bool) (fuel : Nat) : ReadsLegible asciiOnly fuel := by
  induction fuel with
  | zero => exact ⟨nofun, nofun, nofun⟩
  | succ fuel reads =>
    exact ⟨isLegible_of_readValue_succ reads, haveLegible_of_readFields_succ reads,
      areLegible_of_readElements_succ reads⟩

/-- A value that is read from a text of characters is legible. -/
theorem isLegible_of_read {text : Text} {value : Json} (whole : text.isWhole = true)
    (success : read text room = .ok value) : IsLegible asciiOnly value := by
  unfold read at success
  split at success
  · cases success
  · unfold readDocument at success
    dsimp only at success
    split at success
    · cases success
    next value after read =>
      split at success
      · cases success
        exact ((readsLegible asciiOnly _).value
          (isWhole_of_suffix (skipSpace_suffix text) whole) read).1
      · cases success

end Reader

section Order

/-- The fields with a change made to every value. -/
def mapValues (change : Json → Json) (fields : Fields) : Fields :=
  fields.map fun field => (field.1, change field.2)

variable {asciiOnly : Bool} {change : Json → Json} {fields : Fields}

theorem map_fst_mapValues (change : Json → Json) (fields : Fields) :
    (mapValues change fields).map Prod.fst = fields.map Prod.fst := by
  simp [mapValues, Function.comp_def]

theorem get?_mapValues (name : Text) :
    Fields.get? (mapValues change fields) name = (fields.get? name).map change := by
  induction fields with
  | nil => rfl
  | cons field fields ih =>
    obtain ⟨other, value⟩ := field
    simp only [Fields.get?, mapValues, List.map_cons, List.lookup_cons] at ih ⊢
    cases name == other <;> simp [ih]

theorem sortNamesOfFields_eq (fields : Fields) :
    sortNamesOfFields fields = mapValues sortNames fields := by
  induction fields with
  | nil => rfl
  | cons field fields ih => rw [sortNamesOfFields, ih]; rfl

theorem rereadFields_eq (fields : Fields) : rereadFields fields = mapValues reread fields := by
  induction fields with
  | nil => rfl
  | cons field fields ih => rw [rereadFields, ih]; rfl

/-- Where no name is used twice, a field is found exactly if it is there. -/
theorem get?_eq_some_iff (distinct : (fields.map Prod.fst).Nodup) {name : Text} {value : Json} :
    fields.get? name = some value ↔ (name, value) ∈ fields := by
  induction fields with
  | nil => simp [Fields.get?]
  | cons field fields ih =>
    obtain ⟨other, first⟩ := field
    rw [List.map_cons, List.nodup_cons] at distinct
    have later := ih distinct.2
    rw [Fields.get?] at later ⊢
    by_cases same : name = other
    · subst same
      have new : (name, value) ∉ fields :=
        fun member => distinct.1 (List.mem_map.mpr ⟨_, member, rfl⟩)
      simp [new, eq_comm]
    · rw [List.lookup_cons, beq_false_of_ne same, later]
      simp [same]

/-- The order of the fields does not matter for what is under a name. -/
theorem get?_of_perm {other : Fields} (distinct : (fields.map Prod.fst).Nodup)
    (reordered : other.Perm fields) (name : Text) : other.get? name = fields.get? name := by
  have others : (other.map Prod.fst).Nodup := (reordered.map Prod.fst).nodup_iff.mpr distinct
  ext value
  rw [get?_eq_some_iff others, get?_eq_some_iff distinct, reordered.mem_iff]

mutual

theorem isLegible_sortNames {value : Json} (legible : IsLegible asciiOnly value) :
    IsLegible asciiOnly value.sortNames := by
  cases value with
  | null => exact legible
  | bool value => exact legible
  | integer value => exact legible
  | real value => exact legible
  | text value => exact legible
  | array elements => exact areLegible_sortNames (show AreLegible asciiOnly elements from legible)
  | object fields =>
    obtain ⟨distinct, values⟩ := haveLegible_iff.mp
      (haveLegible_sortNames (show HaveLegible asciiOnly fields from legible))
    have sorted := List.mergeSort_perm (sortNamesOfFields fields)
    refine haveLegible_iff.mpr
      ⟨?_, fun field member => values field ((sorted _).mem_iff.mp member)⟩
    exact ((sorted _).map Prod.fst).nodup_iff.mpr distinct

theorem areLegible_sortNames {elements : List Json} (legible : AreLegible asciiOnly elements) :
    AreLegible asciiOnly (sortNamesOfElements elements) := by
  cases elements with
  | nil => exact legible
  | cons element elements => exact ⟨isLegible_sortNames legible.1, areLegible_sortNames legible.2⟩

theorem haveLegible_sortNames {fields : List (Text × Json)}
    (legible : HaveLegible asciiOnly fields) :
    HaveLegible asciiOnly (sortNamesOfFields fields) := by
  cases fields with
  | nil => exact legible
  | cons field fields =>
    obtain ⟨name, value⟩ := field
    refine ⟨?_, isLegible_sortNames legible.2.1, haveLegible_sortNames legible.2.2⟩
    rw [sortNamesOfFields_eq, map_fst_mapValues]
    exact legible.1

end

/-- What is under a name after fields were written in the order of their names and read again. -/
theorem exists_read_sortNames (layout : Layout)
    (legible : HaveLegible layout.asciiOnly fields) :
    ∃ again : Fields, read ((object fields).sortNames.write layout) = .ok (.object again) ∧
      ∀ name, again.get? name = (fields.get? name).map fun value => value.sortNames.reread := by
  have sortedLegible :=
    isLegible_sortNames (show IsLegible layout.asciiOnly (.object fields) from legible)
  refine ⟨_, read_write_legible layout sortedLegible, fun name => ?_⟩
  have distinct := (haveLegible_iff.mp legible).1
  rw [← map_fst_mapValues sortNames] at distinct
  have sorted := List.mergeSort_perm (mapValues sortNames fields)
  rw [rereadFields_eq, get?_mapValues, sortNamesOfFields_eq, get?_of_perm distinct (sorted _),
    get?_mapValues, Option.map_map]
  rfl

end Order

section Exact

mutual

/-- Whether a value has no number with a fraction or an exponent. -/
def hasNoReal : Json → Bool
  | .real _ => false
  | .array elements => haveNoReal elements
  | .object fields => fieldsHaveNoReal fields
  | .null | .bool _ | .integer _ | .text _ => true

/-- Whether the elements of an array have no such number. -/
def haveNoReal : List Json → Bool
  | [] => true
  | element :: elements => hasNoReal element && haveNoReal elements

/-- Whether the values of fields have no such number. -/
def fieldsHaveNoReal : List (Text × Json) → Bool
  | [] => true
  | (_, value) :: fields => hasNoReal value && fieldsHaveNoReal fields

end

/-- Whether a value is one that a text of characters gives, and has no number with a fraction or an
exponent. -/
def IsExact (value : Json) : Prop :=
  (∃ text : Text, text.isWhole = true ∧ read text = .ok value) ∧ hasNoReal value = true

variable {asciiOnly : Bool}

mutual

theorem isReadable_iff {value : Json} :
    isReadable asciiOnly value = true ↔ IsLegible asciiOnly value ∧ hasNoReal value = true := by
  cases value with
  | null => simp [isReadable, IsLegible, hasNoReal]
  | bool value => simp [isReadable, IsLegible, hasNoReal]
  | integer value => simp [isReadable, IsLegible, hasNoReal]
  | real value => simp [isReadable, hasNoReal]
  | text value => simp [isReadable, IsLegible, hasNoReal]
  | array elements => simpa [isReadable, IsLegible, hasNoReal] using areReadable_iff
  | object fields => simpa [isReadable, IsLegible, hasNoReal] using haveReadable_iff

theorem areReadable_iff {elements : List Json} :
    areReadable asciiOnly elements = true ↔
      AreLegible asciiOnly elements ∧ haveNoReal elements = true := by
  cases elements with
  | nil => simp [areReadable, AreLegible, haveNoReal]
  | cons element elements =>
    rw [areReadable, Bool.and_eq_true, isReadable_iff, areReadable_iff, AreLegible, haveNoReal,
      Bool.and_eq_true, and_and_and_comm]

theorem haveReadable_iff {fields : List (Text × Json)} :
    haveReadable asciiOnly fields = true ↔
      HaveLegible asciiOnly fields ∧ fieldsHaveNoReal fields = true := by
  cases fields with
  | nil => simp [haveReadable, HaveLegible, fieldsHaveNoReal]
  | cons field fields =>
    rw [haveReadable, Bool.and_eq_true, Bool.and_eq_true, Bool.and_eq_true, isReadable_iff,
      haveReadable_iff, HaveLegible, fieldsHaveNoReal, Bool.and_eq_true]
    simp only [Bool.not_eq_true', List.contains_eq_mem, decide_eq_false_iff_not]
    tauto

end

/-- A readable value is read from its own text. -/
theorem read_write_readable (layout : Layout) {value : Json}
    (readable : isReadable layout.asciiOnly value = true) :
    read (value.write layout) = .ok value := by
  obtain ⟨legible, same⟩ := reread_of_isReadable readable
  rw [read_write_legible layout legible, same]

/-- The values that are read back from their texts in ASCII as they were are those without fractions
and exponents that a text of characters gives. -/
theorem isReadable_iff_isExact {value : Json} : isReadable true value = true ↔ value.IsExact := by
  constructor
  · intro readable
    obtain ⟨legible, noReal⟩ := isReadable_iff.mp readable
    have whole := isWhole_of_isPlainText (@isPlainText_write .line _ rfl _ legible)
    exact ⟨⟨_, whole, read_write_readable .line readable⟩, noReal⟩
  · rintro ⟨⟨text, whole, read⟩, noReal⟩
    exact isReadable_iff.mpr ⟨isLegible_of_read whole read, noReal⟩

variable {fields written : Fields} {name : Text} {value : Json}

theorem haveReadable_iff_forall : haveReadable asciiOnly fields = true ↔
    (fields.map Prod.fst).Nodup ∧
      ∀ field ∈ fields, isKept asciiOnly field.1 = true ∧ isReadable asciiOnly field.2 = true := by
  induction fields with
  | nil => simp [haveReadable]
  | cons field fields ih =>
    simp only [haveReadable, Bool.and_eq_true, Bool.not_eq_true', List.contains_eq_mem,
      decide_eq_false_iff_not, ih, List.map_cons, List.nodup_cons, List.forall_mem_cons]
    tauto

theorem haveReadable_put (readable : haveReadable asciiOnly fields = true)
    (kept : isKept asciiOnly name = true) (readableValue : isReadable asciiOnly value = true) :
    haveReadable asciiOnly (fields.put name value) = true := by
  obtain ⟨distinct, values⟩ := haveReadable_iff_forall.mp readable
  refine haveReadable_iff_forall.mpr ⟨nodup_put distinct, fun field member => ?_⟩
  rcases mem_put member with rfl | member
  · exact ⟨kept, readableValue⟩
  · exact values field member

theorem haveReadable_foldl_put (readable : haveReadable asciiOnly fields = true)
    (values : ∀ field ∈ written,
      isKept asciiOnly field.1 = true ∧ isReadable asciiOnly field.2 = true) :
    haveReadable asciiOnly
      (written.foldl (fun fields field => Fields.put fields field.1 field.2) fields) = true := by
  induction written generalizing fields with
  | nil => exact readable
  | cons field written ih =>
    obtain ⟨first, others⟩ := List.forall_mem_cons.mp values
    exact ih (haveReadable_put readable first.1 first.2) others

end Exact

end Observance.Json

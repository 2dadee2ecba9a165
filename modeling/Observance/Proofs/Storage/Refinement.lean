import Observance.Proofs.Storage.Preferences

/-! # A file in place of memory

Preferences in a file answer as preferences in memory do that were given the texts of its object and
everything that was set since without an error. Every access reads the whole file, and setting one
preference writes all of it again, so what carries over is only that both give the same under every
name. Nothing else in the object is lost on the way: its other values are written again too, up to
the order of names.

A file is emptied before it is written. So setting a preference could also fail with half of the old
object gone, on an integer that cannot be converted to a text; but no integer that was read from a
file is too long for that.
-/

namespace Observance

open Json Result Text

namespace Json

mutual

/-- Whether two values differ at most in the order of the fields of objects, and in numbers with a
fraction. -/
inductive Same : Json → Json → Prop
  | null : Same .null .null
  | bool (value : Bool) : Same (.bool value) (.bool value)
  | integer (value : Int) : Same (.integer value) (.integer value)
  | real (value other : Binary64) : Same (.real value) (.real other)
  | text (value : Text) : Same (.text value) (.text value)
  | array {elements others : List Json} (same : SameElements elements others) :
      Same (.array elements) (.array others)
  | object {fields others reordered : List (Text × Json)} (same : SameFields fields others)
      (order : reordered.Perm others) : Same (.object fields) (.object reordered)

/-- Whether values are the same one by one. -/
inductive SameElements : List Json → List Json → Prop
  | nil : SameElements [] []
  | cons {element other : Json} {elements others : List Json} (first : Same element other)
      (rest : SameElements elements others) : SameElements (element :: elements) (other :: others)

/-- Whether fields have the same names and values one by one. -/
inductive SameFields : List (Text × Json) → List (Text × Json) → Prop
  | nil : SameFields [] []
  | cons {name : Text} {value other : Json} {fields others : List (Text × Json)}
      (first : Same value other) (rest : SameFields fields others) :
      SameFields ((name, value) :: fields) ((name, other) :: others)

end

mutual

/-- A value that is written in the order of names and read again stays the same. -/
theorem same_reread_sortNames (value : Json) : Same value value.sortNames.reread := by
  cases value with
  | null => exact .null
  | bool value => exact .bool value
  | integer value => exact .integer value
  | real value => exact .real ..
  | text value => exact .text value
  | array elements => exact .array (sameElements_reread_sortNames elements)
  | object fields =>
    refine .object (sameFields_reread_sortNames fields) ?_
    rw [rereadFields_eq, rereadFields_eq]
    exact (List.mergeSort_perm ..).map _

theorem sameElements_reread_sortNames (elements : List Json) :
    SameElements elements (rereadElements (sortNamesOfElements elements)) := by
  cases elements with
  | nil => exact .nil
  | cons element elements =>
    exact .cons (same_reread_sortNames element) (sameElements_reread_sortNames elements)

theorem sameFields_reread_sortNames (fields : List (Text × Json)) :
    SameFields fields (rereadFields (sortNamesOfFields fields)) := by
  cases fields with
  | nil => exact .nil
  | cons field fields =>
    exact .cons (same_reread_sortNames field.2) (sameFields_reread_sortNames fields)

end

variable {asciiOnly : Bool}

mutual

theorem isWritable_of_isLegible {value : Json} (legible : IsLegible asciiOnly value) :
    value.isWritable = true := by
  cases value with
  | null | bool | real | text => rfl
  | integer value => exact legible
  | array elements =>
    exact areWritable_of_areLegible (show AreLegible asciiOnly elements from legible)
  | object fields =>
    exact haveWritable_of_haveLegible (show HaveLegible asciiOnly fields from legible)

theorem areWritable_of_areLegible {elements : List Json} (legible : AreLegible asciiOnly elements) :
    areWritable elements = true := by
  cases elements with
  | nil => rfl
  | cons element elements =>
    rw [areWritable, isWritable_of_isLegible legible.1, areWritable_of_areLegible legible.2]
    rfl

theorem haveWritable_of_haveLegible {fields : List (Text × Json)}
    (legible : HaveLegible asciiOnly fields) : haveWritable fields = true := by
  cases fields with
  | nil => rfl
  | cons field fields =>
    rw [haveWritable, isWritable_of_isLegible legible.2.1, haveWritable_of_haveLegible legible.2.2]
    rfl

end

end Json

namespace FileTree

variable {tree written : FileTree} {text : String} {content : Bytes} {error : FileError}

/-- Writing a file is the same as emptying it first. -/
theorem write_eq_put (success : tree.write text content = .ok written) :
    ∃ emptied, tree.write text [] = .ok emptied ∧
      ∀ other, emptied.put (tree.normalize text) (.file other) =
        tree.put (tree.normalize text) (.file other) ∧
      tree.write text other = .ok (tree.put (tree.normalize text) (.file other)) := by
  obtain ⟨parent, name, located, short, free, -⟩ := write_eq_ok.mp success
  refine ⟨_, write_eq_ok.mpr ⟨parent, name, located, short, free, rfl⟩, fun other => ⟨?_, ?_⟩⟩
  · rw [normalize_eq located]
    exact put_put ..
  · rw [normalize_eq located]
    exact write_eq_ok.mpr ⟨parent, name, located, short, free, rfl⟩

/-- What is written does not matter for the reason why a file cannot be. -/
theorem write_eq_error (failure : tree.write text content = .error error) (other : Bytes) :
    tree.write text other = .error error := by
  unfold write at failure ⊢
  dsimp only at failure ⊢
  split at failure
  · exact failure
  · exact failure
  · exact failure
  · split at failure
    next long => rw [if_pos long, failure]
    next short =>
      rw [if_neg short]
      split at failure
      next directory => rw [if_pos directory, failure]
      · cases failure

end FileTree

namespace Preferences

variable {tree : FileTree} {path : String}

section Steps

/-- On a device that does not fail, setting a text either completes, or fails while the file is
opened and changes nothing. -/
theorem overwrite_eq {device : Device} (sound : device.isSound = true) (tree : FileTree)
    (path : String) (name text : Text) :
    (∃ written, (file tree path).set name (.text text) = .ok (.file written path) ∧
      overwrite device tree path name (.text text) = (written, none)) ∨
    ∃ error, (file tree path).set name (.text text) = .error error ∧
      overwrite device tree path name (.text text) = (tree, some (.file error)) := by
  simp only [Device.isSound, Bool.and_eq_true, Option.isNone_iff_eq_none] at sound
  have legible : HaveLegible false ((fieldsOf tree path).put name (.text text)) :=
    haveLegible_put (haveLegible_fieldsOf false tree path) rfl rfl
  have writable := isWritable_of_isLegible
    (isLegible_sortNames (show IsLegible false (.object _) from legible))
  cases replaced : tree.write path (contentOf ((fieldsOf tree path).put name (.text text))) with
  | ok written =>
    obtain ⟨emptied, opened, again⟩ := FileTree.write_eq_put replaced
    obtain ⟨same, success⟩ := again (contentOf ((fieldsOf tree path).put name (.text text)))
    refine .inl ⟨_, set_file_eq_ok.mpr ⟨_, success, rfl⟩, ?_⟩
    simp only [overwrite, sound, opened, writable, if_true, same]
  | error error =>
    refine .inr ⟨error, ?_, ?_⟩
    · simp only [set, replaced]
      rfl
    · simp only [overwrite, sound, FileTree.write_eq_error replaced []]

end Steps

section Devices

variable {device : Device} {preferences next : Preferences} {name text : Text}
  {error : SettingError}

/-- A device on which a file was written did not fail. -/
theorem isSound_of_overwrite {written : FileTree} {value : Json}
    (success : overwrite device tree path name value = (written, none)) :
    device.isSound = true := by
  unfold overwrite at success
  dsimp only at success
  split at success
  · cases success
  · cases success
  next noFault _ =>
    rw [Device.isSound, noFault]
    cases written : device.writing with
    | none => rfl
    | some fault =>
      rw [written] at success
      cases success

theorem setOn_file_eq {value : Json} {failure : Option SettingError} :
    (file tree path).setOn device name value = (next, failure) ↔
      ∃ left, overwrite device tree path name value = (left, failure) ∧ next = .file left path := by
  rw [setOn]
  cases overwrite device tree path name value with
  | mk left other =>
    simp only [Prod.mk.injEq]
    constructor
    · rintro ⟨rfl, rfl⟩
      exact ⟨left, ⟨rfl, rfl⟩, rfl⟩
    · rintro ⟨_, ⟨rfl, rfl⟩, rfl⟩
      exact ⟨rfl, rfl⟩

theorem isInMemory_setOn {value : Json} {failure : Option SettingError}
    (set : preferences.setOn device name value = (next, failure)) :
    next.isInMemory = preferences.isInMemory := by
  cases preferences with
  | memory values =>
    cases set
    rfl
  | file tree path =>
    obtain ⟨left, -, rfl⟩ := setOn_file_eq.mp set
    rfl

/-- What was set on some device is set. -/
theorem set_of_setOn (success : preferences.setOn device name (.text text) = (next, none)) :
    preferences.set name (.text text) = .ok next := by
  cases preferences with
  | memory values =>
    cases success
    rfl
  | file tree path =>
    obtain ⟨written, overwritten, rfl⟩ := setOn_file_eq.mp success
    have sound := isSound_of_overwrite overwritten
    rcases overwrite_eq sound tree path name text with ⟨_, set, same⟩ | ⟨_, -, same⟩
    · cases overwritten.symm.trans same
      exact set
    · cases overwritten.symm.trans same

/-- A set that fails changes nothing, unless the device fails after the file was opened. -/
theorem eq_of_setOn (safe : preferences.isInMemory = true ∨ device.spares = true)
    (failure : preferences.setOn device name (.text text) = (next, some error)) :
    next = preferences := by
  cases preferences with
  | memory values => cases failure
  | file tree path =>
    have spares : device.spares = true := safe.resolve_left nofun
    obtain ⟨left, failed, rfl⟩ := setOn_file_eq.mp failure
    cases opening : device.opening with
    | some fault =>
      simp only [overwrite, opening, Prod.mk.injEq] at failed
      rw [failed.1]
    | none =>
      have sound : device.isSound = true := by
        rw [Device.spares, opening] at spares
        rw [Device.isSound, opening]
        exact spares
      rcases overwrite_eq sound tree path name text with ⟨_, -, same⟩ | ⟨_, -, same⟩
      · cases failed.symm.trans same
      · cases failed.symm.trans same
        rfl

/-- On a device that does not fail, a preference is set if it can be. -/
theorem setOn_of_set (success : preferences.set name (.text text) = .ok next) :
    preferences.setOn {} name (.text text) = (next, none) := by
  cases preferences with
  | memory values =>
    cases success
    rfl
  | file tree path =>
    rcases overwrite_eq (show ({} : Device).isSound = true from rfl) tree path name text with
      ⟨written, set, same⟩ | ⟨_, failed, _⟩
    · cases success.symm.trans set
      exact setOn_file_eq.mpr ⟨_, same, rfl⟩
    · cases success.symm.trans failed

end Devices

section Accesses

/-- An access to preferences. -/
inductive Access where
  | get (name : Text)
  | set (name value : Text)
deriving Repr, DecidableEq

/-- Whether the texts that an access sets are ones that files keep. -/
def Access.IsUnpaired : Access → Prop
  | get _ => True
  | set name value => name.isUnpaired = true ∧ value.isUnpaired = true

/-- What is had back by the accesses that get a preference; one that fails to set a preference
leaves all preferences as they were. -/
def answers (preferences : Preferences) : List Access → List (Option Json)
  | [] => []
  | .get name :: accesses => preferences.get? name :: preferences.answers accesses
  | .set name value :: accesses =>
    match preferences.set name (.text value) with
    | .ok next => next.answers accesses
    | .error _ => preferences.answers accesses

def completed (preferences : Preferences) : List Access → List Access
  | [] => []
  | .get name :: accesses => .get name :: preferences.completed accesses
  | .set name value :: accesses =>
    match preferences.set name (.text value) with
    | .ok next => .set name value :: next.completed accesses
    | .error _ => preferences.completed accesses

/-- Preferences in memory that agree with others under every name answer as they do, if they are
given what the others complete. -/
theorem answers_eq_of_agree {preferences : Preferences} {values : Fields} {accesses : List Access}
    (agree : ∀ name, preferences.get? name = (memory values).get? name)
    (unpaired : ∀ access ∈ accesses, access.IsUnpaired) :
    preferences.answers accesses = (memory values).answers (preferences.completed accesses) := by
  -- Both grow with the accesses; what is kept is the agreement under every name.
  induction accesses generalizing preferences values with
  | nil => rfl
  | cons access accesses ih =>
    obtain ⟨first, others⟩ := List.forall_mem_cons.mp unpaired
    cases access with
    | get name => simp only [answers, completed, agree name, ih agree others]
    | set name value =>
      cases success : preferences.set name (.text value) with
      | error error => simp only [answers, completed, success, ih agree others]
      | ok next =>
        have remembered : (memory values).set name (.text value) =
            .ok (memory (values.put name (.text value))) := rfl
        simp only [answers, completed, success, remembered]
        refine ih (fun other => ?_) others
        rw [get?_set (.inr first.1) (.inr first.2) success,
          get?_set (.inl rfl) (.inl rfl) remembered, agree other]

end Accesses

section Refinement

/-- Whether a file holds the text of an object with the given fields. -/
def HoldsObject (tree : FileTree) (path : String) (fields : Fields) : Prop :=
  ∃ content characters, tree.read path = .ok content ∧ Utf8.decode content = .ok characters ∧
    Json.read (normalizeLineEnds characters) = .ok (.object fields)

theorem holdsObject_iff {fields : Fields} : HoldsObject tree path fields ↔ ∃ text,
    tree.readText path = .ok text ∧ Json.read text = .ok (.object fields) := by
  constructor
  · rintro ⟨content, characters, read, decoded, isObject⟩
    exact ⟨_, by simp only [FileTree.readText, read, decoded], isObject⟩
  · rintro ⟨text, success, isObject⟩
    unfold FileTree.readText at success
    split at success
    · cases success
    next content read =>
      split at success
      · cases success
      next characters decoded =>
        cases success
        exact ⟨content, characters, read, decoded, isObject⟩

/-- A file counts as the object that it holds, and as an empty one if it holds none. -/
theorem fieldsOf_eq (tree : FileTree) (path : String) :
    HoldsObject tree path (fieldsOf tree path) ∨
      (¬ ∃ fields, HoldsObject tree path fields) ∧ fieldsOf tree path = [] := by
  simp only [holdsObject_iff]
  unfold fieldsOf
  split
  next text success =>
    unfold fieldsOfText
    split
    next fields isObject => exact .inl ⟨text, success, isObject⟩
    next noObject =>
      refine .inr ⟨?_, rfl⟩
      rintro ⟨fields, other, again, isObject⟩
      obtain rfl : text = other := Except.ok.inj (success.symm.trans again)
      exact noObject fields isObject
  next error failure =>
    refine .inr ⟨?_, rfl⟩
    rintro ⟨fields, text, success, -⟩
    cases failure.symm.trans success

theorem HoldsObject.eq_fieldsOf {fields : Fields} (holds : HoldsObject tree path fields) :
    fieldsOf tree path = fields := by
  obtain ⟨text, success, isObject⟩ := holdsObject_iff.mp holds
  simp only [fieldsOf, success, fieldsOfText, isObject]

def textsOf (fields : Fields) : Fields := fields.filter (·.2.text?.isSome)

theorem get?_textsOf {fields : Fields} (distinct : (fields.map Prod.fst).Nodup) (name : Text) :
    (textsOf fields).get? name = (fields.get? name).filter (·.text?.isSome) := by
  have sublist : ((textsOf fields).map Prod.fst).Sublist (fields.map Prod.fst) :=
    List.filter_sublist.map _
  ext value
  rw [get?_eq_some_iff (sublist.nodup distinct), textsOf, List.mem_filter,
    Option.filter_eq_some_iff, get?_eq_some_iff distinct]

/-- Preferences in a file agree with the texts of its object in memory. -/
theorem get?_file_eq (tree : FileTree) (path : String) (name : Text) :
    (file tree path).get? name = (memory (textsOf (fieldsOf tree path))).get? name :=
  (get?_textsOf (haveLegible_iff.mp (haveLegible_fieldsOf false tree path)).1 name).symm

/-- Preferences in a file answer as those in memory do that begin with the texts of its object, or
empty if it holds none, and are given what completes. A preference that cannot be set leaves the
tree as it was, and one that is set leaves every other value of the object the same. All of this is
about texts in which no two halves belong to a pair. -/
theorem answers_file (tree : FileTree) (path : String) :
    (∀ accesses fields, (∀ access ∈ accesses, Access.IsUnpaired access) →
      HoldsObject tree path fields →
        (file tree path).answers accesses =
          (memory (textsOf fields)).answers ((file tree path).completed accesses)) ∧
    (∀ accesses, (∀ access ∈ accesses, Access.IsUnpaired access) →
      (¬ ∃ fields, HoldsObject tree path fields) →
        (file tree path).answers accesses =
          (memory []).answers ((file tree path).completed accesses)) ∧
    ∀ leftover name text,
      (∃ error, (file tree path).set name (.text text) = .error error ∧
        overwrite { leftover } tree path name (.text text) = (tree, some (.file error))) ∨
      ∃ written, (file tree path).set name (.text text) = .ok (.file written path) ∧
        overwrite { leftover } tree path name (.text text) = (written, none) ∧
        (name.isUnpaired = true → text.isUnpaired = true → ∀ other, other ≠ name →
          Option.Rel Same ((fieldsOf tree path).get? other)
            ((fieldsOf written path).get? other)) := by
  have agree := get?_file_eq tree path
  refine ⟨?_, ?_, ?_⟩
  · intro accesses fields unpaired holds
    rw [answers_eq_of_agree agree unpaired, holds.eq_fieldsOf]
  · intro accesses unpaired none
    rcases fieldsOf_eq tree path with holds | ⟨-, empty⟩
    · exact absurd ⟨_, holds⟩ none
    · rw [answers_eq_of_agree agree unpaired, empty]
      rfl
  · intro leftover name text
    rcases overwrite_eq (show ({ leftover } : Device).isSound = true from rfl)
        tree path name text with
      ⟨written, success, stepwise⟩ | failed
    · refine .inr ⟨written, success, stepwise, fun unpairedName unpairedText other apart => ?_⟩
      obtain ⟨_, replaced, same⟩ := set_file_eq_ok.mp success
      cases same
      have legible : HaveLegible true ((fieldsOf tree path).put name (.text text)) :=
        haveLegible_put (haveLegible_fieldsOf true tree path) (isKept_of_isUnpaired unpairedName)
          (isKept_of_isUnpaired unpairedText)
      rw [get?_fieldsOf_write legible replaced, Fields.get?_put, if_neg apart]
      cases (fieldsOf tree path).get? other with
      | none => exact .none
      | some value => exact .some (same_reread_sortNames value)
    · exact .inl failed

def favorites : Fields := [("color", .text "red"), ("visits", .integer 2)]

def favoritesTree : FileTree :=
  ⟨[(["favorites"], .file (Utf8.encode ((Json.object favorites).write layout)))], []⟩

/-- The number cannot be had, but the text can, and so can the one that replaces it. -/
theorem answers_file_favorites :
    HoldsObject favoritesTree "favorites" favorites ∧
    (file favoritesTree "favorites").answers
      [.get "visits", .get "color", .set "color" "blue", .get "color"] =
        [none, some (.text "red"), some (.text "blue")] := by
  obtain ⟨legible, same⟩ : IsLegible true (.object favorites) ∧
      reread (.object favorites) = .object favorites := reread_of_isReadable rfl
  have holds : HoldsObject favoritesTree "favorites" favorites := by
    have content : favoritesTree.read "favorites" =
        .ok (Utf8.encode ((Json.object favorites).write layout)) := by decide +kernel
    have text := FileTree.readText_of_isPlainText content (isPlainText_write rfl legible)
    refine holdsObject_iff.mpr ⟨_, text, ?_⟩
    rw [read_write_legible layout legible, same]
  have all : (file favoritesTree "favorites").completed
      [.get "visits", .get "color", .set "color" "blue", .get "color"] =
        [.get "visits", .get "color", .set "color" "blue", .get "color"] := by decide +kernel
  have unpaired : ∀ access ∈ [Access.get "visits", .get "color", .set "color" "blue",
      .get "color"], access.IsUnpaired := by simp [Access.IsUnpaired]
  obtain ⟨object, -, -⟩ := answers_file favoritesTree "favorites"
  refine ⟨holds, ?_⟩
  rw [object _ _ unpaired holds, all]
  rfl

end Refinement

end Preferences

end Observance

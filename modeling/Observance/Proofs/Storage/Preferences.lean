import Observance.Proofs.Json.Fields
import Observance.Proofs.Json.Legible
import Observance.Proofs.Json.Plain
import Observance.Proofs.Storage.Tree
import Observance.Storage.Preferences

/-! # What preferences keep

A preference that was set is had back, and no other changes, whether preferences are kept in memory
or in a file, and whatever the file holds. Setting one in a file reads the whole object, puts the
field into it and writes it again, so the law rests on every value that was read being written in a
form that is read again. The two halves of a pair are written as the character of the pair is, so a
file keeps no text in which they follow one another.
-/

namespace Observance

open Json Text

namespace FileTree

theorem readText_of_isPlainText {tree : FileTree} {path : String} {text : Text}
    (read : tree.read path = .ok (Utf8.encode text)) (plain : IsPlainText text) :
    tree.readText path = .ok text := by
  simp only [readText, read, Utf8.decode_encode plain, normalizeLineEnds_of_isPlainText plain]

/-- The text of a file has no halves. -/
theorem isWhole_of_readText {tree : FileTree} {path : String} {text : Text}
    (success : tree.readText path = .ok text) : text.isWhole = true := by
  unfold readText at success
  split at success
  · cases success
  next content read =>
    cases decoded : Utf8.decodeFrom 0 content with
    | error error =>
      rw [Utf8.decode, decoded] at success
      cases success
    | ok characters =>
      rw [Utf8.decode, decoded] at success
      cases success
      exact isWhole_normalizeLineEnds (isWhole_iff.mpr ⟨characters, rfl⟩)

end FileTree

namespace Preferences

variable {preferences next : Preferences} {name : Text}

/-- Whether every preference can be set to every value. -/
def IsWritable (preferences : Preferences) : Prop :=
  ∀ name value, ∃ next, preferences.set name value = .ok next

def isInMemory : Preferences → Bool
  | memory _ => true
  | file .. => false

/-- Whether a text is had back from preferences as it was put into them. -/
def Keeps (preferences : Preferences) (text : Text) : Prop :=
  preferences.isInMemory = true ∨ text.isUnpaired = true

theorem keeps_ofString (preferences : Preferences) (literal : String) :
    preferences.Keeps literal := .inr (isUnpaired_ofString literal)

theorem Keeps.isKept {tree : FileTree} {path : String} {text : Text} {asciiOnly : Bool}
    (keeps : (file tree path).Keeps text) : isKept asciiOnly text = true :=
  keeps.elim nofun isKept_of_isUnpaired

section File

variable {tree written : FileTree} {path : String} {fields : Fields}

theorem haveLegible_fieldsOf (asciiOnly : Bool) (tree : FileTree) (path : String) :
    HaveLegible asciiOnly (fieldsOf tree path) := by
  unfold fieldsOf
  split
  next text read =>
    unfold fieldsOfText
    split
    next success => exact isLegible_of_read (FileTree.isWhole_of_readText read) success
    · trivial
  · trivial

/-- What is under a name in a file after fields were written to it. -/
theorem get?_fieldsOf_write (legible : HaveLegible true fields)
    (success : tree.write path (contentOf fields) = .ok written) (name : Text) :
    (fieldsOf written path).get? name =
      (fields.get? name).map fun value => value.sortNames.reread := by
  have plain : IsPlainText ((Json.object fields).sortNames.write layout) :=
    isPlainText_write rfl (isLegible_sortNames (show IsLegible true (.object fields) from legible))
  have text := FileTree.readText_of_isPlainText (FileTree.read_write success).1 plain
  obtain ⟨again, read, values⟩ := exists_read_sortNames layout legible
  simp only [fieldsOf, text, fieldsOfText, read, values]

theorem filter_reread_sortNames (value? : Option Json) :
    (value?.map fun value => value.sortNames.reread).filter (·.text?.isSome) =
      value?.filter (·.text?.isSome) := by
  cases value? with
  | none => rfl
  | some value => cases value <;> rfl

end File

theorem set_file_eq_ok {tree : FileTree} {path : String} {value : Json} :
    (file tree path).set name value = .ok next ↔
      ∃ written, tree.write path (contentOf ((fieldsOf tree path).put name value)) = .ok written ∧
        next = .file written path := by
  simp only [set, Result.bind_eq_ok, Result.pure_eq_ok]
  tauto

/-- A text that was set is had back, and every other preference is as before. -/
theorem get?_set {text : Text} (keepsName : preferences.Keeps name)
    (keepsText : preferences.Keeps text) (success : preferences.set name (.text text) = .ok next)
    (other : Text) :
    next.get? other = if other = name then some (.text text) else preferences.get? other := by
  cases preferences with
  | memory values =>
    cases success
    exact Fields.get?_put values name other _
  | file tree path =>
    obtain ⟨written, replaced, rfl⟩ := set_file_eq_ok.mp success
    have legible : HaveLegible true ((fieldsOf tree path).put name (.text text)) :=
      haveLegible_put (haveLegible_fieldsOf true tree path) keepsName.isKept keepsText.isKept
    simp only [get?, get?_fieldsOf_write legible replaced, filter_reread_sortNames, Fields.get?_put]
    split <;> rfl

/-- Whether preferences can be set depends neither on which one is set nor on the value. -/
theorem isWritable_iff : preferences.IsWritable ↔ ∃ name value next,
    preferences.set name value = .ok next := by
  refine ⟨fun writable => ⟨[], .null, writable _ _⟩, ?_⟩
  rintro ⟨name, value, next, success⟩ other replacement
  cases preferences with
  | memory values => exact ⟨_, rfl⟩
  | file tree path =>
    obtain ⟨written, replaced, -⟩ := set_file_eq_ok.mp success
    obtain ⟨again, rewritten⟩ := FileTree.exists_write replaced
      (contentOf ((fieldsOf tree path).put other replacement))
    exact ⟨_, set_file_eq_ok.mpr ⟨again, rewritten, rfl⟩⟩

/-- Where a preference was set, every preference can be. -/
theorem isWritable_of_set {value : Json} (success : preferences.set name value = .ok next) :
    next.IsWritable := by
  rw [isWritable_iff]
  cases preferences with
  | memory values =>
    cases success
    exact ⟨name, value, _, rfl⟩
  | file tree path =>
    obtain ⟨written, replaced, rfl⟩ := set_file_eq_ok.mp success
    obtain ⟨again, rewritten⟩ := FileTree.exists_write_again replaced
      (contentOf ((fieldsOf written path).put name value))
    exact ⟨name, value, _, set_file_eq_ok.mpr ⟨again, rewritten, rfl⟩⟩

end Preferences

end Observance

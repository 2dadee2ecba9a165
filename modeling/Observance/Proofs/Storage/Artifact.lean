import Mathlib.Data.List.Nodup
import Mathlib.Data.List.Perm.Subperm
import Observance.Proofs.Result
import Observance.Proofs.Storage.Directories
import Observance.Proofs.Text.Plain
import Observance.Storage.Artifact
import Std.Data.String.ToNat

/-! # Writing is all or nothing

A schedule that is written is read back at its destination, and no other file has changed. If it
cannot be written, no file has changed at all, though some directories may have been made. That
the staging file is new is what keeps it from taking the place of another file, and whatever fails
after it was made, its encoding, the device or the renaming, it is removed again.
-/

namespace Observance.Artifact

open FileTree Result Text

variable {device : Device} {tree files : FileTree} {destination : String} {text : Text}

/-- Different attempts have different names. -/
theorem stagingName_injective {attempt other : Nat}
    (same : stagingName attempt = stagingName other) : attempt = other := by
  have infix_inj {first second : String}
      (same : ".festivals-TMP" ++ first ++ ".json.tmp" =
        ".festivals-TMP" ++ second ++ ".json.tmp") : first = second := by
    have characters := congrArg String.toList same
    simp only [String.toList_append] at characters
    exact String.toList_inj.mp (List.append_cancel_left (List.append_cancel_right characters))
  have numbers := infix_inj same
  have filled (n : Nat) : toString n ≠ "" := by
    intro empty
    have digits := congrArg String.toList empty
    rw [Nat.toString_eq_ofList_toDigits, String.toList_ofList, String.toList_empty] at digits
    exact Nat.toDigits_ne_nil digits
  split at numbers
  next zero =>
    split at numbers
    next zero' => exact zero.trans zero'.symm
    next => exact absurd numbers.symm (filled other)
  next =>
    split at numbers
    next => exact absurd numbers (filled attempt)
    next => exact Nat.repr_inj.mp numbers

/-- A staging path is a new one: there are more of them than entries. -/
theorem stagingPath_new (tree : FileTree) (directory : Path) :
    stagingPath tree directory ≠ [] ∧ tree.get? (stagingPath tree directory) = none := by
  unfold stagingPath
  simp only
  cases found : ((List.range (tree.entries.length + 1)).map fun attempt =>
      directory ++ [stagingName attempt]).find? (!tree.has ·) with
  | some path =>
    obtain ⟨attempt, -, rfl⟩ := List.mem_map.mp (List.mem_of_find?_eq_some found)
    have absent := List.find?_some found
    exact ⟨by simp, by simpa [has] using absent⟩
  | none =>
    -- Every staging path would be that of an entry, and there are too few entries.
    have taken : (List.range (tree.entries.length + 1)).map
        (fun attempt => directory ++ [stagingName attempt]) ⊆ tree.entries.map Prod.fst := by
      intro path member
      have present := List.find?_eq_none.mp found path member
      obtain ⟨attempt, -, rfl⟩ := List.mem_map.mp member
      simp only [has, get?, List.append_eq_nil_iff, List.cons_ne_nil, and_false, if_false,
        Bool.not_eq_true', Bool.not_eq_false, Option.isSome_iff_exists] at present
      obtain ⟨entry, present⟩ := present
      obtain ⟨before, after, entries, -⟩ := List.lookup_eq_some_iff.mp present
      rw [entries]
      simp
    have distinct : ((List.range (tree.entries.length + 1)).map
        fun attempt => directory ++ [stagingName attempt]).Nodup := by
      refine List.nodup_range.map fun attempt other same => ?_
      exact stagingName_injective (by simpa using same)
    have enough := (List.subperm_of_subset distinct taken).length_le
    rw [List.length_map, List.length_map, List.length_range] at enough
    omega

/-- A text that is in a file whole has no halves. -/
theorem fill_eq_none {content : Bytes} (success : fill device text = (content, none)) :
    text.isWhole = true ∧ content = Utf8.encode text := by
  unfold fill at success
  split at success
  · cases success
  next encodes =>
    split at success
    · cases success
    · cases success
      exact ⟨Utf8.encodingError?_eq_none.mp encodes, rfl⟩

theorem move_eq_ok {staging : Path} (success : move device tree staging destination = .ok files) :
    tree.rename staging destination = .ok files := by
  unfold move at success
  split at success
  · cases success
  · exact mapError_eq_ok.mp success

/-- What replaces a destination comes from a staging file that has the whole text. -/
theorem replace_eq_none {directory : Path}
    (success : replace device tree directory destination text = (files, none)) :
    text.isWhole = true ∧ ∃ staging, staging ≠ [] ∧ tree.get? staging = none ∧
      (tree.put staging (.file (Utf8.encode text))).rename staging destination = .ok files := by
  obtain ⟨inside, absent⟩ := stagingPath_new tree directory
  unfold replace at success
  simp only at success
  split at success
  · cases success
  · split at success
    · cases success
    · unfold replaceBy at success
      cases filled : fill device text with
      | mk content failure =>
        cases failure with
        | some error =>
          rw [filled] at success
          cases success
        | none =>
          obtain ⟨whole, rfl⟩ := fill_eq_none filled
          rw [filled] at success
          simp only [put_put] at success
          split at success
          next renamed moved =>
            cases success
            exact ⟨whole, _, inside, absent, move_eq_ok moved⟩
          · cases success

/-- A staging file that is removed leaves the same as before at every path. -/
theorem get?_remove_put {staging : Path} (inside : staging ≠ []) (absent : tree.get? staging = none)
    (content : Bytes) (path : Path) :
    ((tree.put staging (.file content)).remove staging).get? path = tree.get? path := by
  rw [get?_remove inside, get?_put inside]
  split
  next here => rw [here, absent]
  next => rfl

/-- If a text cannot replace a destination, there is the same as before at every path, whatever
failed. -/
theorem replace_eq_some {directory : Path} {error : WritingError}
    (failure : replace device tree directory destination text = (files, some error)) :
    files.workingDirectory = tree.workingDirectory ∧
      ∀ path, files.get? path = tree.get? path := by
  obtain ⟨inside, absent⟩ := stagingPath_new tree directory
  unfold replace at failure
  simp only at failure
  split at failure
  · cases failure
    exact ⟨rfl, fun _ => rfl⟩
  · split at failure
    · cases failure
      exact ⟨rfl, fun _ => rfl⟩
    · unfold replaceBy at failure
      cases filled : fill device text with
      | mk content failed =>
        rw [filled] at failure
        simp only [put_put] at failure
        cases failed with
        | some error =>
          cases failure
          exact ⟨rfl, get?_remove_put inside absent content⟩
        | none =>
          simp only at failure
          split at failure
          · cases failure
          · cases failure
            exact ⟨rfl, get?_remove_put inside absent content⟩

/-- A text that replaces a destination is read there, and no other file has changed. -/
theorem read_of_replace {directory : Path}
    (success : replace device tree directory destination text = (files, none)) :
    files.read destination = .ok (Utf8.encode text) ∧
      ∀ path, files.file? path =
        if path = tree.normalize destination then some (Utf8.encode text) else tree.file? path := by
  obtain ⟨-, staging, inside, absent, renamed⟩ := replace_eq_none success
  have present : (tree.put staging (.file (Utf8.encode text))).get? staging =
      some (.file (Utf8.encode text)) := by rw [get?_put inside, if_pos rfl]
  obtain ⟨read, others⟩ := read_rename inside present renamed
  refine ⟨read, fun path => ?_⟩
  have same : (tree.put staging (.file (Utf8.encode text))).normalize destination =
      tree.normalize destination := rfl
  rw [others path, same, file?_put_file inside]
  split
  next => rfl
  next =>
    split
    next here => rw [here, file?, absent]
    next => rfl

/-- A text that is written is whole and read at its destination, and no other file has changed. -/
theorem writeText_eq_none (success : writeText device tree destination text = (files, none)) :
    text.isWhole = true ∧ files.read destination = .ok (Utf8.encode text) ∧
      ∀ path, files.file? path =
        if path = tree.normalize destination then some (Utf8.encode text) else tree.file? path := by
  unfold writeText at success
  simp only at success
  split at success
  · cases success
  next larger made =>
    have adds := addsDirectories_makeDirectories tree
      ((tree.normalize destination).dropLast.takeWhile (!Path.hasNull ·))
    rw [made] at adds
    obtain ⟨read, others⟩ := read_of_replace success
    refine ⟨(replace_eq_none success).1, read, fun path => ?_⟩
    rw [others path, normalize_congr adds.workingDirectory, adds.file?_eq]

/-- If a text cannot be written, directories may have been made, and that is all. -/
theorem addsDirectories_of_writeText {error : WritingError}
    (failure : writeText device tree destination text = (files, some error)) :
    AddsDirectories tree files := by
  have adds := addsDirectories_makeDirectories tree
    ((tree.normalize destination).dropLast.takeWhile (!Path.hasNull ·))
  unfold writeText at failure
  simp only at failure
  split at failure
  next larger cause made =>
    cases failure
    rwa [made] at adds
  next larger made =>
    rw [made] at adds
    obtain ⟨directory, same⟩ := replace_eq_some failure
    refine ⟨directory.trans adds.workingDirectory, fun path => ?_⟩
    rw [same]
    exact adds.entries path

/-- If a text cannot be written, what is read at the destination is what was read before. A file
there is in a directory, and then no directory was made. -/
theorem read_of_writeText {error : WritingError} (isTree : tree.IsTree)
    (failure : writeText device tree destination text = (files, some error)) :
    (files.read destination).toOption = (tree.read destination).toOption := by
  cases present : tree.file? (tree.normalize destination) with
  | some old =>
    have found := file?_eq_some.mp present
    have inside : tree.normalize destination ≠ [] := by
      intro root
      rw [root] at found
      cases found
    have parent := isTree _ inside (by rw [has, found]; rfl)
    have made := makeDirectories_of_isDirectory isTree
      (isDirectory_above isTree parent (List.takeWhile_prefix (!Path.hasNull ·)))
    rw [writeText, made] at failure
    obtain ⟨directory, same⟩ := replace_eq_some failure
    rw [read_congr same directory]
  | none =>
    have adds := addsDirectories_of_writeText failure
    rw [toOption_read_of_none present, toOption_read_of_none]
    rw [normalize_congr adds.workingDirectory, adds.file?_eq, present]

section Schedules

variable {Data Days : Type} [EventData Data] [Publishable Days] {schedule : Schedule Data Days}

/-- A schedule that is written is in the file at its destination, and no other file has changed. -/
theorem write_eq_ok (success : write device tree destination schedule = (files, .ok text)) :
    text = schedule.serialize ∧ text.isWhole = true ∧
      files.read destination = .ok (Utf8.encode text) ∧
        ∀ path, files.file? path =
          if path = tree.normalize destination then some (Utf8.encode text)
          else tree.file? path := by
  unfold write at success
  simp only at success
  split at success
  next written =>
    cases success
    exact ⟨rfl, writeText_eq_none written⟩
  · cases success

theorem write_eq_error {error : WritingError}
    (failure : write device tree destination schedule = (files, .error error)) :
    writeText device tree destination schedule.serialize = (files, some error) := by
  unfold write at failure
  simp only at failure
  split at failure
  · cases failure
  next failed =>
    cases failure
    exact failed

end Schedules

end Observance.Artifact

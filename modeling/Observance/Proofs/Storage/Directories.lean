import Observance.Proofs.Storage.Tree

/-! # Making directories

Making directories adds directories on the way to a path and changes nothing else, also if it fails.
In a tree with a directory at the path there is nothing to make.
-/

namespace Observance.FileTree

open Result

variable {tree larger : FileTree} {path : Path}

/-- A tree with what another has, and perhaps with more directories. -/
structure AddsDirectories (tree larger : FileTree) : Prop where
  workingDirectory : larger.workingDirectory = tree.workingDirectory
  entries : ∀ path, larger.get? path = tree.get? path ∨
    tree.get? path = none ∧ larger.get? path = some .directory

namespace AddsDirectories

theorem refl (tree : FileTree) : AddsDirectories tree tree := ⟨rfl, fun _ => .inl rfl⟩

theorem trans {largest : FileTree} (first : AddsDirectories tree larger)
    (second : AddsDirectories larger largest) : AddsDirectories tree largest := by
  refine ⟨second.workingDirectory.trans first.workingDirectory, fun path => ?_⟩
  rcases second.entries path with same | ⟨absent, added⟩
  · rw [same]
    exact first.entries path
  · rcases first.entries path with same | ⟨_, present⟩
    · exact .inr ⟨same ▸ absent, added⟩
    · rw [present] at absent
      cases absent

/-- The files are the same. -/
theorem file?_eq (adds : AddsDirectories tree larger) (path : Path) :
    larger.file? path = tree.file? path := by
  unfold file?
  rcases adds.entries path with same | ⟨absent, added⟩
  · rw [same]
  · rw [absent, added]

end AddsDirectories

theorem makeDirectory_eq_ok {made : FileTree} (success : tree.makeDirectory path = .ok made) :
    tree.get? path = none ∧ tree.isDirectory path.dropLast = true ∧
      made = tree.put path .directory := by
  obtain ⟨⟨⟩, -, success⟩ := bind_eq_ok.mp success
  split at success
  · cases success
  · cases success
  next parent =>
    split at success
    · cases success
    · split at success
      · cases success
      next absent =>
        cases success
        exact ⟨by simpa [has] using absent, isDirectory_iff.mpr parent, rfl⟩

theorem ne_nil_of_get?_eq_none (absent : tree.get? path = none) : path ≠ [] := by
  rintro rfl
  cases absent

/-- Making one directory after the other on the way to a path keeps what holds of a tree. -/
def IsKeptOnWay (holds : FileTree → Prop) (path : Path) : Prop :=
  ∀ made whole way, way <+: path → made.makeDirectory way = .ok whole → holds made → holds whole

/-- What holds of a tree, and is kept by making a directory on the way to a path, still holds after
the directories of that path are made, also if that fails. -/
theorem makeDirectories_induct {motive : FileTree → Prop} (start : motive tree)
    (kept : IsKeptOnWay motive path) : motive (tree.makeDirectories path).1 := by
  have parents {path : Path} {made : FileTree} {failure : Option FileError}
      (begun : (if path = [] ∨ tree.has path.dropLast then (tree, none)
        else tree.makeDirectories path.dropLast) = (made, failure))
      (ih : ¬ (path = [] ∨ tree.has path.dropLast = true) → IsKeptOnWay motive path.dropLast →
        motive (tree.makeDirectories path.dropLast).1) (kept : IsKeptOnWay motive path) :
      motive made := by
    split at begun
    next =>
      cases begun
      exact start
    next missing =>
      have shorter : IsKeptOnWay motive path.dropLast := fun made whole way isOnWay =>
        kept made whole way (isOnWay.trans (List.dropLast_prefix path))
      have held := ih missing shorter
      rwa [begun] at held
  fun_induction makeDirectories tree path with
  | case1 path parent made error begun ih => exact parents begun ih kept
  | case2 path parent made whole success begun ih =>
    exact kept made whole path (List.prefix_refl path) success (parents begun ih kept)
  | case3 path parent made cause failed present begun ih => exact parents begun ih kept
  | case4 path parent made cause failed missing begun ih => exact parents begun ih kept

/-- Making directories only adds directories, also if it fails. -/
theorem addsDirectories_makeDirectories (tree : FileTree) (path : Path) :
    AddsDirectories tree (tree.makeDirectories path).1 := by
  refine makeDirectories_induct (.refl tree) fun made whole way _ success adds => ?_
  refine adds.trans ⟨?_, fun other => ?_⟩
  all_goals obtain ⟨absent, -, rfl⟩ := makeDirectory_eq_ok success
  · rfl
  · rw [get?_put (ne_nil_of_get?_eq_none absent)]
    split
    next here => exact .inr ⟨here ▸ absent, rfl⟩
    next => exact .inl rfl

/-- The directories that are added are on the way. -/
theorem prefix_of_makeDirectories {other : Path} (missing : tree.has other = false)
    (present : (tree.makeDirectories path).1.has other = true) : other <+: path := by
  refine makeDirectories_induct (motive := fun made => made.has other = true → other <+: path)
    (fun present => ?_) (fun made whole way isOnWay success ih present => ?_) present
  · rw [missing] at present
    cases present
  · obtain ⟨absent, -, rfl⟩ := makeDirectory_eq_ok success
    rw [has, get?_put (ne_nil_of_get?_eq_none absent)] at present
    split at present
    next here => exact here ▸ isOnWay
    next => exact ih present

/-- Whatever a directory of a tree is in is a directory. -/
theorem isDirectory_above (isTree : tree.IsTree) (directory : tree.isDirectory path = true)
    {above : Path} (isPrefix : above <+: path) : tree.isDirectory above = true := by
  induction length : path.length generalizing path with
  | zero =>
    rw [List.length_eq_zero_iff] at length
    subst length
    rwa [List.prefix_nil.mp isPrefix]
  | succ depth ih =>
    have inside : path ≠ [] := List.ne_nil_of_length_eq_add_one length
    have parent := isTree path inside (by rw [has, isDirectory_iff.mp directory]; rfl)
    rcases List.prefix_concat_iff.mp (List.dropLast_concat_getLast inside ▸ isPrefix) with
      same | shorter
    · rwa [same, List.dropLast_concat_getLast inside]
    · exact ih parent shorter (by rw [List.length_dropLast, length]; rfl)

/-- Nothing is in a directory that is missing. -/
theorem has_eq_false_below (isTree : tree.IsTree) (missing : tree.has path = false)
    (name : String) :
    tree.has (path ++ [name]) = false := by
  rw [Bool.eq_false_iff]
  intro present
  have parent := isTree _ (by simp) present
  rw [List.dropLast_concat, isDirectory_iff] at parent
  rw [has, parent] at missing
  cases missing

/-- What is put into a directory leaves a tree, unless it takes the place of a directory. -/
theorem IsTree.put (isTree : tree.IsTree) (inside : path ≠ []) {entry : FileEntry}
    (parent : tree.isDirectory path.dropLast = true)
    (replaces : tree.isDirectory path = true → entry = .directory) :
    (tree.put path entry).IsTree := by
  intro other below present
  have directory : tree.isDirectory other.dropLast = true := by
    rw [has, get?_put inside] at present
    split at present
    next here => rw [here, parent]
    next => exact isTree other below present
  rw [isDirectory_iff, get?_put inside]
  split
  next here => rw [replaces (here ▸ directory)]
  next => exact isDirectory_iff.mp directory

theorem IsTree.makeDirectories (isTree : tree.IsTree) (path : Path) :
    (tree.makeDirectories path).1.IsTree := by
  refine makeDirectories_induct isTree fun made whole way _ success isTree => ?_
  obtain ⟨absent, parent, rfl⟩ := makeDirectory_eq_ok success
  exact isTree.put (ne_nil_of_get?_eq_none absent) parent fun _ => rfl

/-- There is nothing to make at a directory. -/
theorem makeDirectories_of_isDirectory (isTree : tree.IsTree)
    (directory : tree.isDirectory path = true) : tree.makeDirectories path = (tree, none) := by
  have present : tree.get? path = some .directory := isDirectory_iff.mp directory
  have parents : path = [] ∨ tree.has path.dropLast = true := by
    by_cases root : path = []
    · exact .inl root
    · have above := isTree path root (by rw [has, present]; rfl)
      exact .inr (by rw [has, isDirectory_iff.mp above]; rfl)
  rw [makeDirectories, if_pos parents]
  simp only
  split
  next made success => rw [(makeDirectory_eq_ok success).1] at present; cases present
  next => rw [if_pos directory]

end Observance.FileTree

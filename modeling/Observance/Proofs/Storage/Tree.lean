import Observance.Proofs.Result
import Observance.Storage.Tree

/-! # What is at a path

What operations do to a tree is said by what is at each path afterwards. Following names from a
directory looks only at directories until the last name, so it is not disturbed by files that come
and go beside them. Because there are no links, a file is found at the path that its text gives
without looking at the tree, and nowhere else.
-/

namespace Observance.FileTree

open Result Text

variable {tree other : FileTree} {path : Path}

/-- The content of the file at a path; none if there is no file. -/
def file? (tree : FileTree) (path : Path) : Option Bytes :=
  match tree.get? path with
  | some (.file content) => some content
  | _ => none

/-- Whatever there is in the tree is in a directory of the tree. -/
def IsTree (tree : FileTree) : Prop :=
  ∀ path, path ≠ [] → tree.has path = true → tree.isDirectory path.dropLast = true

/-- A tree whose entries are each listed with a directory to be in is one. -/
theorem isTree_of_entries
    (listed : ∀ entry ∈ tree.entries, tree.isDirectory entry.1.dropLast = true) : tree.IsTree := by
  intro path inside present
  rw [has, get?, if_neg inside, Option.isSome_iff_exists] at present
  obtain ⟨entry, found⟩ := present
  obtain ⟨before, after, entries, -⟩ := List.lookup_eq_some_iff.mp found
  exact listed (path, entry) (by simp [entries])

theorem isDirectory_iff : tree.isDirectory path = true ↔ tree.get? path = some .directory := by
  rw [isDirectory, beq_iff_eq]

theorem file?_eq_some {content : Bytes} :
    tree.file? path = some content ↔ tree.get? path = some (.file content) := by
  unfold file?
  cases tree.get? path with
  | none => simp
  | some entry => cases entry <;> simp

/-- Where a text leads without looking at the tree depends on the working directory alone. -/
theorem normalize_congr (same : other.workingDirectory = tree.workingDirectory) (text : String) :
    other.normalize text = tree.normalize text := by
  rw [normalize, normalize, startOf, startOf, same]

private theorem lookup_cons_of_ne {path place : Path} (apart : path ≠ place) (entry : FileEntry)
    (entries : List (Path × FileEntry)) :
    List.lookup path ((place, entry) :: entries) = List.lookup path entries := by
  rw [List.lookup_cons, beq_false_of_ne apart]

theorem lookup_putEntry (path target : Path) (entry : FileEntry)
    (entries : List (Path × FileEntry)) :
    (putEntry target entry entries).lookup path =
      if path = target then some entry else entries.lookup path := by
  induction entries with
  | nil =>
    by_cases here : path = target
    · rw [if_pos here, here, putEntry, List.lookup_cons_self]
    · rw [if_neg here, putEntry, lookup_cons_of_ne here]
  | cons first entries ih =>
    obtain ⟨place, old⟩ := first
    unfold putEntry
    by_cases here : path = place
    · subst here
      split
      next same => rw [same, List.lookup_cons_self]
      next different => rw [List.lookup_cons_self, List.lookup_cons_self]
    · rw [lookup_cons_of_ne here]
      split
      next same =>
        rw [lookup_cons_of_ne (same ▸ here), if_neg (same ▸ here)]
      next different => rw [lookup_cons_of_ne here, ih]

theorem lookup_filter_ne (path removed : Path) (entries : List (Path × FileEntry)) :
    (entries.filter (·.1 ≠ removed)).lookup path =
      if path = removed then none else entries.lookup path := by
  induction entries with
  | nil => simp
  | cons first entries ih =>
    obtain ⟨place, old⟩ := first
    by_cases gone : place = removed
    · rw [List.filter_cons_of_neg (by simpa using gone), ih]
      split
      · rfl
      next other => rw [lookup_cons_of_ne (gone ▸ other)]
    · rw [List.filter_cons_of_pos (by simpa using gone)]
      by_cases here : path = place
      · rw [if_neg (here ▸ gone), here, List.lookup_cons_self, List.lookup_cons_self]
      · rw [lookup_cons_of_ne here, lookup_cons_of_ne here, ih]

theorem putEntry_putEntry (path : Path) (first second : FileEntry)
    (entries : List (Path × FileEntry)) :
    putEntry path second (putEntry path first entries) = putEntry path second entries := by
  induction entries with
  | nil => simp [putEntry]
  | cons entry entries ih =>
    obtain ⟨other, old⟩ := entry
    by_cases same : other = path <;> simp [putEntry, same, ih]

theorem put_put (tree : FileTree) (path : Path) (first second : FileEntry) :
    (tree.put path first).put path second = tree.put path second := by
  simp only [put, putEntry_putEntry]

theorem get?_put {target : Path} (inside : target ≠ []) (entry : FileEntry) :
    (tree.put target entry).get? path = if path = target then some entry else tree.get? path := by
  unfold get?
  by_cases root : path = []
  · subst root
    simp [Ne.symm inside]
  · simp only [put, if_neg root, lookup_putEntry]

theorem get?_remove {removed : Path} (inside : removed ≠ []) :
    (tree.remove removed).get? path = if path = removed then none else tree.get? path := by
  unfold get?
  by_cases root : path = []
  · subst root
    simp [Ne.symm inside]
  · simp only [remove, if_neg root, lookup_filter_ne]

theorem file?_put_file {target : Path} (inside : target ≠ []) (content : Bytes) :
    (tree.put target (.file content)).file? path =
      if path = target then some content else tree.file? path := by
  unfold file?
  rw [get?_put inside]
  by_cases here : path = target <;> simp [here]

theorem file?_remove {removed : Path} (inside : removed ≠ []) :
    (tree.remove removed).file? path = if path = removed then none else tree.file? path := by
  unfold file?
  rw [get?_remove inside]
  by_cases here : path = removed <;> simp [here]

section Following

/-- What is found by following names is where the names lead without looking at the tree. -/
theorem descend_eq_follow {names : List String} {found : Path}
    (success : tree.descend path names = .ok found) : found = path.follow names := by
  induction names generalizing path with
  | nil =>
    cases success
    rfl
  | cons name names ih =>
    unfold descend at success
    unfold Path.follow
    split at success
    · cases success
    · cases success
    · split at success
      next stays => rw [if_pos stays, ih success]
      next moves =>
        rw [if_neg moves]
        split at success
        next up => rw [if_pos up, ih success]
        next down =>
          rw [if_neg down]
          split at success
          · cases success
          · split at success
            · exact ih success
            · cases success

theorem descend_append (first second : List String) :
    tree.descend path (first ++ second) =
      tree.descend path first >>= (tree.descend · second) := by
  induction first generalizing path with
  | nil => rfl
  | cons name first ih =>
    simp only [List.cons_append, descend]
    split
    · rfl
    · rfl
    · simp only [ih]
      repeat' split
      all_goals rfl

/-- Following names gives the same in two trees with the same at every path. -/
theorem descend_congr (same : ∀ path, other.get? path = tree.get? path) (names : List String) :
    other.descend path names = tree.descend path names := by
  induction names generalizing path with
  | nil => rfl
  | cons name names ih =>
    simp only [descend, has, same, ih]
    rfl

/-- Names that lead to a directory start from one. -/
theorem isDirectory_of_descend {names : List String} {found : Path}
    (success : tree.descend path names = .ok found) (atEnd : tree.isDirectory found = true) :
    tree.isDirectory path = true := by
  cases names with
  | nil =>
    cases success
    exact atEnd
  | cons name names =>
    unfold descend at success
    split at success
    · cases success
    · cases success
    next here => exact isDirectory_iff.mpr here

/-- Names that lead to a directory lead there in every tree that has the same directories, and
perhaps more. -/
theorem descend_of_directories
    (larger : ∀ path, tree.isDirectory path = true → other.isDirectory path = true)
    {names : List String} {found : Path} (success : tree.descend path names = .ok found)
    (atEnd : tree.isDirectory found = true) : other.descend path names = .ok found := by
  induction names generalizing path with
  | nil => exact success
  | cons name names ih =>
    have here := isDirectory_iff.mp (larger path (isDirectory_of_descend success atEnd))
    unfold descend at success ⊢
    rw [here]
    split at success
    · cases success
    · cases success
    · split at success
      next stays => rw [if_pos stays, ih success]
      next moves =>
        rw [if_neg moves]
        split at success
        next up => rw [if_pos up, ih success]
        next down =>
          rw [if_neg down]
          split at success
          · cases success
          next short =>
            rw [if_neg short]
            split at success
            · have next := larger _ (isDirectory_of_descend success atEnd)
              rw [if_pos (by rw [has, isDirectory_iff.mp next]; rfl), ih success]
            · cases success

end Following

section Reading

theorem read_eq_ok {text : String} {content : Bytes} :
    tree.read text = .ok content ↔
      ∃ path, tree.locate text = .ok path ∧ tree.get? path = some (.file content) := by
  unfold read
  cases tree.locate text with
  | error cause => simp
  | ok path =>
    cases found : tree.get? path with
    | none => simp [found]
    | some entry => cases entry <;> simp [found]

/-- A file that is read is at the path that the text gives. -/
theorem file?_of_read {text : String} {content : Bytes} (success : tree.read text = .ok content) :
    checkText text = .ok () ∧ tree.file? (tree.normalize text) = some content := by
  obtain ⟨path, located, found⟩ := read_eq_ok.mp success
  obtain ⟨⟨⟩, valid, descended⟩ := bind_eq_ok.mp located
  cases descend_eq_follow descended
  exact ⟨valid, file?_eq_some.mpr found⟩

theorem toOption_read_of_none {text : String} (absent : tree.file? (tree.normalize text) = none) :
    (tree.read text).toOption = none := by
  cases success : tree.read text with
  | error error => rfl
  | ok content =>
    rw [(file?_of_read success).2] at absent
    cases absent

/-- Reading gives the same in two trees with the same at every path. -/
theorem read_congr (same : ∀ path, other.get? path = tree.get? path)
    (directory : other.workingDirectory = tree.workingDirectory) (text : String) :
    other.read text = tree.read text := by
  simp only [read, locate, startOf, directory, descend_congr same, same]

end Reading

section Renaming

theorem follow_append (path : Path) (first second : List String) :
    path.follow (first ++ second) = (path.follow first).follow second := by
  induction first generalizing path with
  | nil => rfl
  | cons name first ih =>
    simp only [List.cons_append, Path.follow, ih]
    repeat' split
    all_goals rfl

/-- A last name without slashes after it is the last of the names, and one of its own. -/
theorem splitLast_eq_name {names parents : List String} {name : String}
    (split : splitLast names = (parents, .name name false)) :
    names = parents ++ [name] ∧ name ≠ "" ∧ name ≠ "." ∧ name ≠ ".." := by
  have whole := List.takeWhile_append_dropWhile (p := String.isEmpty) (l := names.reverse)
  cases rest : names.reverse.dropWhile (·.isEmpty) with
  | nil =>
    simp only [splitLast, rest] at split
    cases split
  | cons last earlier =>
    rw [rest] at whole
    simp only [splitLast, rest] at split
    have visible : last.isEmpty = false := by
      have := List.head?_dropWhile_not String.isEmpty names.reverse
      rw [rest] at this
      simpa using this
    simp only [Prod.mk.injEq] at split
    obtain ⟨rfl, split⟩ := split
    split at split
    · cases split
    next own =>
      rw [LastName.name.injEq] at split
      obtain ⟨rfl, noSlash⟩ := split
      cases slashes : names.reverse.takeWhile (·.isEmpty) with
      | cons slash slashes =>
        have empty := List.all_takeWhile (p := String.isEmpty) (l := names.reverse)
        rw [slashes, List.all_cons, Bool.and_eq_true, String.isEmpty_iff] at empty
        rw [slashes] at whole
        rw [← whole, empty.1] at noSlash
        simp at noSlash
      | nil =>
        rw [slashes, List.nil_append] at whole
        refine ⟨?_, ?_, fun dot => own (.inl dot), fun dots => own (.inr dots)⟩
        · rw [← List.reverse_reverse names, ← whole, List.reverse_cons]
        · rintro rfl
          cases visible

/-- The directory and the name that the text of a path leads to. -/
theorem locateParent_eq_name {text name : String} {parent : Path}
    (success : tree.locateParent text = .ok (parent, .name name false)) :
    checkText text = .ok () ∧ tree.isDirectory parent = true ∧
      (name ≠ "" ∧ name ≠ "." ∧ name ≠ "..") ∧ ∃ parents,
        Path.namesOf text = parents ++ [name] ∧
        tree.descend (tree.startOf text) parents = .ok parent := by
  obtain ⟨⟨⟩, valid, success⟩ := bind_eq_ok.mp success
  cases split : splitLast (Path.namesOf text) with
  | mk parents last =>
    rw [split] at success
    obtain ⟨found, descended, success⟩ := bind_eq_ok.mp success
    split at success
    next atEnd =>
      cases pure_eq_ok.mp success
      obtain ⟨names, own⟩ := splitLast_eq_name split
      exact ⟨valid, atEnd, own, parents, names, descended⟩
    · exact absurd success throw_ne_ok

theorem normalize_eq {text name : String} {parent : Path}
    (success : tree.locateParent text = .ok (parent, .name name false)) :
    tree.normalize text = parent ++ [name] := by
  obtain ⟨-, -, ⟨filled, notDot, notDots⟩, parents, names, descended⟩ :=
    locateParent_eq_name success
  rw [normalize, names, follow_append, ← descend_eq_follow descended, Path.follow,
    if_neg (by simp [filled, notDot]), if_neg notDots, Path.follow]

theorem rename_eq_ok {source : Path} {target : String} {renamed : FileTree}
    (success : tree.rename source target = .ok renamed) :
    ∃ content parent name, tree.get? source = some (.file content) ∧
      tree.locateParent target = .ok (parent, .name name false) ∧
      name.utf8ByteSize ≤ Path.longestName ∧ tree.isDirectory (parent ++ [name]) = false ∧
      renamed = (tree.remove source).put (parent ++ [name]) (.file content) := by
  unfold rename at success
  simp only at success
  split at success
  next content parent name hasSlash found located =>
    split at success
    · cases success
    next short =>
      split at success
      · cases success
      next noSlash =>
        split at success
        · cases success
        next noDirectory =>
          cases success
          refine ⟨content, parent, name, found, ?_, Nat.le_of_not_lt short, ?_, rfl⟩
          · rw [located, Bool.eq_false_iff.mpr noSlash]
          · exact Bool.eq_false_iff.mpr noDirectory
  · cases success
  · cases success
  · cases success

/-- Moving a file to a place where there is no directory leaves all directories in place. -/
theorem isDirectory_remove_put {source target path : Path} {content : Bytes}
    (inside : source ≠ []) (apart : target ≠ [])
    (found : tree.get? source = some (.file content)) (free : tree.isDirectory target = false)
    (directory : tree.isDirectory path = true) :
    ((tree.remove source).put target (.file content)).isDirectory path = true := by
  have notTarget : path ≠ target := by
    rintro rfl
    rw [free] at directory
    cases directory
  have notSource : path ≠ source := by
    rintro rfl
    rw [isDirectory_iff, found] at directory
    cases directory
  rw [isDirectory_iff, get?_put apart, get?_remove inside, if_neg notTarget, if_neg notSource]
  exact isDirectory_iff.mp directory

/-- A text that leads to a directory and a name leads there in every tree that starts from the same
directory and has the same directories, and perhaps more. -/
theorem locateParent_of_directories {text name : String} {parent : Path}
    (located : tree.locateParent text = .ok (parent, .name name false))
    (start : other.workingDirectory = tree.workingDirectory)
    (larger : ∀ path, tree.isDirectory path = true → other.isDirectory path = true) :
    other.locateParent text = .ok (parent, .name name false) := by
  obtain ⟨⟨⟩, valid, success⟩ := bind_eq_ok.mp located
  refine bind_eq_ok.mpr ⟨(), valid, ?_⟩
  cases split : splitLast (Path.namesOf text) with
  | mk parents last =>
    rw [split] at success
    obtain ⟨found, descended, success⟩ := bind_eq_ok.mp success
    split at success
    next atEnd =>
      cases pure_eq_ok.mp success
      refine bind_eq_ok.mpr ⟨parent, ?_, if_pos (larger parent atEnd)⟩
      rw [startOf, start]
      exact descend_of_directories larger descended atEnd
    · exact absurd success throw_ne_ok

/-- A file is read from where its text leads to a directory and a name. -/
theorem read_of_locateParent {text name : String} {parent : Path} {content : Bytes}
    (located : tree.locateParent text = .ok (parent, .name name false))
    (short : name.utf8ByteSize ≤ Path.longestName)
    (placed : tree.get? (parent ++ [name]) = some (.file content)) :
    tree.read text = .ok content := by
  obtain ⟨valid, atEnd, ⟨filled, notDot, notDots⟩, parents, names, descended⟩ :=
    locateParent_eq_name located
  refine read_eq_ok.mpr ⟨parent ++ [name], ?_, placed⟩
  refine bind_eq_ok.mpr ⟨(), valid, ?_⟩
  rw [names, descend_append]
  refine bind_eq_ok.mpr ⟨parent, descended, ?_⟩
  rw [descend, isDirectory_iff.mp atEnd]
  simp only [filled, notDot, notDots, or_self, if_false]
  rw [if_neg (Nat.not_lt.mpr short), has, placed]
  rfl

/-- A file that was renamed is read under its new name. It is the only file that changed. -/
theorem read_rename {source : Path} {target : String} {content : Bytes} {renamed : FileTree}
    (inside : source ≠ []) (found : tree.get? source = some (.file content))
    (success : tree.rename source target = .ok renamed) :
    renamed.read target = .ok content ∧
      ∀ path, renamed.file? path =
        if path = tree.normalize target then some content
        else if path = source then none else tree.file? path := by
  obtain ⟨moved, parent, name, same, located, short, free, rfl⟩ := rename_eq_ok success
  cases found.symm.trans same
  have apart : parent ++ [name] ≠ [] := by simp
  constructor
  · refine read_of_locateParent (locateParent_of_directories located rfl fun path directory =>
      isDirectory_remove_put inside apart found free directory) short ?_
    rw [get?_put apart, if_pos rfl]
  · intro path
    rw [normalize_eq located, file?_put_file apart, file?_remove inside]

end Renaming

section Writing

theorem write_eq_ok {text : String} {content : Bytes} {written : FileTree} :
    tree.write text content = .ok written ↔
      ∃ parent name, tree.locateParent text = .ok (parent, .name name false) ∧
        name.utf8ByteSize ≤ Path.longestName ∧ tree.isDirectory (parent ++ [name]) = false ∧
        written = tree.put (parent ++ [name]) (.file content) := by
  constructor
  · intro success
    unfold write at success
    dsimp only at success
    split at success
    · cases success
    · cases success
    · cases success
    next parent name located =>
      split at success
      · cases success
      next short =>
        split at success
        · cases success
        next noDirectory =>
          cases success
          exact ⟨parent, name, located, Nat.le_of_not_lt short, Bool.eq_false_iff.mpr noDirectory,
            rfl⟩
  · rintro ⟨parent, name, located, short, noDirectory, rfl⟩
    simp only [write, located, if_neg (Nat.not_lt.mpr short), noDirectory]
    rfl

theorem isDirectory_put_file {target path : Path} {content : Bytes} (inside : target ≠ [])
    (free : tree.isDirectory target = false) (directory : tree.isDirectory path = true) :
    (tree.put target (.file content)).isDirectory path = true := by
  have apart : path ≠ target := by
    rintro rfl
    rw [free] at directory
    cases directory
  rw [isDirectory_iff, get?_put inside, if_neg apart]
  exact isDirectory_iff.mp directory

variable {text : String} {content : Bytes} {written : FileTree}

/-- A file that was written is read. It is the only file that changed. -/
theorem read_write (success : tree.write text content = .ok written) :
    written.read text = .ok content ∧
      ∀ path, written.file? path =
        if path = tree.normalize text then some content else tree.file? path := by
  obtain ⟨parent, name, located, short, free, rfl⟩ := write_eq_ok.mp success
  have inside : parent ++ [name] ≠ [] := by simp
  constructor
  · refine read_of_locateParent (locateParent_of_directories located rfl
      fun path => isDirectory_put_file inside free) short ?_
    rw [get?_put inside, if_pos rfl]
  · intro path
    rw [normalize_eq located, file?_put_file inside]

/-- Whether a file can be written does not depend on what is written. -/
theorem exists_write (success : tree.write text content = .ok written) (next : Bytes) :
    ∃ again, tree.write text next = .ok again := by
  obtain ⟨parent, name, located, short, free, -⟩ := write_eq_ok.mp success
  exact ⟨_, write_eq_ok.mpr ⟨parent, name, located, short, free, rfl⟩⟩

/-- A file that was written can be written again. -/
theorem exists_write_again (success : tree.write text content = .ok written) (next : Bytes) :
    ∃ again, written.write text next = .ok again := by
  obtain ⟨parent, name, located, short, free, rfl⟩ := write_eq_ok.mp success
  have inside : parent ++ [name] ≠ [] := by simp
  refine ⟨_, write_eq_ok.mpr ⟨parent, name, locateParent_of_directories located rfl
    fun path => isDirectory_put_file inside free, short, ?_, rfl⟩⟩
  rw [Bool.eq_false_iff]
  intro directory
  rw [isDirectory_iff, get?_put inside, if_pos rfl] at directory
  cases directory

end Writing

end Observance.FileTree

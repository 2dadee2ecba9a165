import Mathlib.Data.List.Induction
import Observance.Proofs.Storage.Artifact

/-! # What a write leaves behind

A write either puts a whole schedule at its destination or leaves all files as they were, and in
both cases the only other trace of it are new directories on the way to the destination, with
nothing else in them. The staging file is never left: it is at a path where there was nothing, and
it is gone again whether it took the place of the destination or not, on every device. So over any
number of writes a file has what was last written to it, or what it had before all of them.
-/

namespace Observance.Artifact

open FileTree Text

/-- A tree has the directories of another and, apart from them, only directories on the way to a
destination, which have nothing in them but what is on that way too. -/
structure OnlyMakesWay (tree files : FileTree) (destination : Path) : Prop where
  isTree : files.IsTree
  workingDirectory : files.workingDirectory = tree.workingDirectory
  kept : ∀ path, tree.isDirectory path = true → files.isDirectory path = true
  onWay : ∀ path, tree.has path = false → files.isDirectory path = true →
    path <+: destination.dropLast
  otherwiseEmpty : ∀ path name, tree.has path = false → files.has (path ++ [name]) = true →
    path ++ [name] <+: destination

variable {tree files other : FileTree} {destination : Path}

namespace OnlyMakesWay

/-- Making directories on the way makes way. -/
theorem of_makeDirectories (isTree : tree.IsTree) {path : Path}
    (isOnWay : path <+: destination.dropLast) :
    OnlyMakesWay tree (tree.makeDirectories path).1 destination := by
  have adds := addsDirectories_makeDirectories tree path
  refine ⟨isTree.makeDirectories path, adds.workingDirectory, ?_, ?_, ?_⟩
  · intro other directory
    rw [isDirectory_iff] at directory ⊢
    rcases adds.entries other with same | ⟨absent, -⟩
    · rw [same, directory]
    · rw [directory] at absent
      cases absent
  · intro other missing directory
    have present : (tree.makeDirectories path).1.has other = true := by
      rw [has, isDirectory_iff.mp directory]
      rfl
    exact (prefix_of_makeDirectories missing present).trans isOnWay
  · intro other name missing present
    have missingBelow := has_eq_false_below isTree missing name
    have below := (prefix_of_makeDirectories missingBelow present).trans isOnWay
    exact below.trans (List.dropLast_prefix destination)

/-- Only what is at each path matters, not how a tree lists it. -/
theorem congr (makes : OnlyMakesWay tree files destination)
    (workingDirectory : other.workingDirectory = files.workingDirectory)
    (same : ∀ path, other.get? path = files.get? path) : OnlyMakesWay tree other destination := by
  have has_eq (path : Path) : other.has path = files.has path := by rw [has, has, same]
  have isDirectory_eq (path : Path) : other.isDirectory path = files.isDirectory path := by
    rw [isDirectory, isDirectory, same]
  obtain ⟨isTree, start, kept, onWay, otherwiseEmpty⟩ := makes
  refine ⟨?_, workingDirectory.trans start, ?_, ?_, ?_⟩
  · intro path inside present
    rw [isDirectory_eq]
    exact isTree path inside (has_eq path ▸ present)
  · intro path directory
    rw [isDirectory_eq, kept path directory]
  · intro path missing directory
    exact onWay path missing (isDirectory_eq path ▸ directory)
  · intro path name missing present
    exact otherwiseEmpty path name missing (has_eq _ ▸ present)

/-- A file at the destination is in the way of nothing. -/
theorem put_file (makes : OnlyMakesWay tree files destination) (inside : destination ≠ [])
    (parent : files.isDirectory destination.dropLast = true)
    (free : files.isDirectory destination = false) (content : Bytes) :
    OnlyMakesWay tree (files.put destination (.file content)) destination := by
  refine ⟨?_, makes.workingDirectory, ?_, ?_, ?_⟩
  · refine makes.isTree.put inside parent fun directory => ?_
    rw [free] at directory
    cases directory
  · intro path directory
    exact isDirectory_put_file inside free (makes.kept path directory)
  · intro path missing directory
    rw [isDirectory_iff, get?_put inside] at directory
    split at directory
    · cases directory
    · exact makes.onWay path missing (isDirectory_iff.mpr directory)
  · intro path name missing present
    rw [has, get?_put inside] at present
    split at present
    next here => exact here ▸ List.prefix_refl destination
    next => exact makes.otherwiseEmpty path name missing present

end OnlyMakesWay

section Content

variable {device : Device} {directory : Path} {target : String} {text : Text}

/-- A text that replaces a destination is put into a directory, not in the place of one. Apart from
it, there is the same as before at every path. -/
theorem get?_of_replace (success : replace device tree directory target text = (files, none)) :
    files.workingDirectory = tree.workingDirectory ∧ ∃ parent name,
      tree.normalize target = parent ++ [name] ∧ tree.isDirectory parent = true ∧
        tree.isDirectory (parent ++ [name]) = false ∧ ∀ path,
          files.get? path = (tree.put (parent ++ [name]) (.file (Utf8.encode text))).get? path := by
  obtain ⟨-, staging, inside, absent, renamed⟩ := replace_eq_none success
  obtain ⟨staged, parent, name, present, located, -, free, rfl⟩ := rename_eq_ok renamed
  have apart : parent ++ [name] ≠ [] := by simp
  have here := normalize_eq located
  rw [get?_put inside, if_pos rfl] at present
  cases present
  refine ⟨rfl, parent, name, here, ?_, ?_, fun path => ?_⟩
  · have atEnd := (locateParent_eq_name located).2.1
    rw [isDirectory_iff, get?_put inside] at atEnd
    split at atEnd
    · cases atEnd
    · exact isDirectory_iff.mpr atEnd
  · rw [Bool.eq_false_iff] at free ⊢
    intro taken
    refine free (isDirectory_put_file inside ?_ taken)
    rw [isDirectory, absent]
    rfl
  · rw [get?_put apart, get?_put apart, get?_remove_put inside absent]

/-- Writing a text makes way to its destination and nothing else, whether it succeeds or not. -/
theorem onlyMakesWay_writeText (isTree : tree.IsTree) (device : Device) (target : String)
    (text : Text) :
    OnlyMakesWay tree (writeText device tree target text).1 (tree.normalize target) := by
  have isOnWay := List.takeWhile_prefix (l := (tree.normalize target).dropLast) (!Path.hasNull ·)
  have makes := OnlyMakesWay.of_makeDirectories isTree isOnWay
  unfold writeText
  simp only
  split
  next larger error made =>
    rwa [made] at makes
  next larger made =>
    rw [made] at makes
    have place := normalize_congr makes.workingDirectory target
    cases result : replace device larger
        ((tree.normalize target).dropLast.takeWhile (!Path.hasNull ·)) target text with
    | mk files failure =>
      cases failure with
      | some error =>
        obtain ⟨start, same⟩ := replace_eq_some result
        exact makes.congr start same
      | none =>
        obtain ⟨start, parent, name, here, directory, free, same⟩ := get?_of_replace result
        rw [place] at here
        rw [here] at makes ⊢
        have inside : parent ++ [name] ≠ [] := by simp
        have above : larger.isDirectory (parent ++ [name]).dropLast = true := by
          rwa [List.dropLast_concat]
        exact (makes.put_file inside above free _).congr start same

end Content

section Schedules

variable {Data Days : Type} [EventData Data] [Publishable Days] {device : Device}

/-- What a write may do to the files: put the whole schedule at its destination and give its text,
which has no halves then, or fail and leave all files as they were. -/
inductive IsAllOrNothing (tree : FileTree) (target : String) (schedule : Schedule Data Days) :
    FileTree × Except WritingError Text → Prop
  | all {files : FileTree} (whole : schedule.serialize.isWhole = true)
      (read : files.read target = .ok (Utf8.encode schedule.serialize))
      (others : ∀ path, files.file? path =
        if path = tree.normalize target then some (Utf8.encode schedule.serialize)
        else tree.file? path) :
      IsAllOrNothing tree target schedule (files, .ok schedule.serialize)
  | nothing {files : FileTree} {error : WritingError}
      (same : ∀ path, files.file? path = tree.file? path) :
      IsAllOrNothing tree target schedule (files, .error error)

theorem isAllOrNothing_write (device : Device) (tree : FileTree) (target : String)
    (schedule : Schedule Data Days) :
    IsAllOrNothing tree target schedule (write device tree target schedule) := by
  cases result : write device tree target schedule with
  | mk files answer =>
    cases answer with
    | ok text =>
      obtain ⟨rfl, whole, read, others⟩ := write_eq_ok result
      exact .all whole read others
    | error error => exact .nothing (addsDirectories_of_writeText (write_eq_error result)).file?_eq

theorem write_fst (device : Device) (tree : FileTree) (target : String)
    (schedule : Schedule Data Days) :
    (write device tree target schedule).1 =
      (writeText device tree target schedule.serialize).1 := by
  unfold write
  simp only
  split
  next written => rw [written]
  next failed => rw [failed]

theorem onlyMakesWay_write (isTree : tree.IsTree) (device : Device) (target : String)
    (schedule : Schedule Data Days) :
    OnlyMakesWay tree (write device tree target schedule).1 (tree.normalize target) := by
  rw [write_fst]
  exact onlyMakesWay_writeText isTree device target _

/-- A write of a schedule to a destination, on a device of its own. -/
structure Write (Data Days : Type) where
  target : String
  schedule : Schedule Data Days
  device : Device := {}

def Write.run (next : Write Data Days) (tree : FileTree) : FileTree × Except WritingError Text :=
  write next.device tree next.target next.schedule

def writeAll (tree : FileTree) (writes : List (Write Data Days)) : FileTree :=
  writes.foldl (fun tree next => (next.run tree).1) tree

/-- After earlier writes, the next one succeeds, and its destination is a path. -/
def WritesTo (tree : FileTree) (path : Path) (earlier : List (Write Data Days))
    (next : Write Data Days) : Prop :=
  tree.normalize next.target = path ∧ ∃ text, (next.run (writeAll tree earlier)).2 = .ok text

/-- After earlier writes, none of some later ones succeeds at a path. -/
def Unwritten (tree : FileTree) (path : Path) (earlier later : List (Write Data Days)) : Prop :=
  ∀ before next after, later = before ++ next :: after →
    ¬WritesTo tree path (earlier ++ before) next

/-- What a file may have after several writes: the last schedule that was written to it, or what it
had before all of them. -/
inductive HasLast (tree : FileTree) (path : Path) : List (Write Data Days) → Option Bytes → Prop
  | last {earlier later : List (Write Data Days)} {next : Write Data Days}
      (written : WritesTo tree path earlier next)
      (unwritten : Unwritten tree path (earlier ++ [next]) later) :
      HasLast tree path (earlier ++ next :: later) (some (Utf8.encode next.schedule.serialize))
  | initial {writes : List (Write Data Days)} (unwritten : Unwritten tree path [] writes) :
      HasLast tree path writes (tree.file? path)

variable {path : Path} {writes : List (Write Data Days)}

theorem writeAll_concat (next : Write Data Days) :
    writeAll tree (writes ++ [next]) = (next.run (writeAll tree writes)).1 := by
  rw [writeAll, List.foldl_append]
  rfl

/-- Writes leave a tree with the same working directory. -/
theorem isTree_writeAll (isTree : tree.IsTree) (writes : List (Write Data Days)) :
    (writeAll tree writes).IsTree ∧
      (writeAll tree writes).workingDirectory = tree.workingDirectory := by
  induction writes using List.reverseRecOn with
  | nil => exact ⟨isTree, rfl⟩
  | append_singleton writes next ih =>
    have makes := onlyMakesWay_write ih.1 next.device next.target next.schedule
    rw [writeAll_concat]
    exact ⟨makes.isTree, makes.workingDirectory.trans ih.2⟩

theorem unwritten_concat {earlier : List (Write Data Days)} {next : Write Data Days}
    (unwritten : Unwritten tree path earlier writes)
    (missed : ¬WritesTo tree path (earlier ++ writes) next) :
    Unwritten tree path earlier (writes ++ [next]) := by
  intro before other after split
  rcases List.eq_nil_or_concat' after with rfl | ⟨shorter, final, rfl⟩
  · obtain ⟨rfl, same⟩ := List.append_inj' split rfl
    obtain ⟨rfl, -⟩ := List.cons.inj same
    exact missed
  · rw [← List.cons_append, ← List.append_assoc] at split
    obtain ⟨rfl, -⟩ := List.append_inj' split rfl
    exact unwritten before other shorter rfl

/-- After one more write, a file has what was written to it, or the same as before. -/
theorem file?_writeAll_concat (isTree : tree.IsTree) (next : Write Data Days) :
    WritesTo tree path writes next ∧
        (writeAll tree (writes ++ [next])).file? path =
          some (Utf8.encode next.schedule.serialize) ∨
      ¬WritesTo tree path writes next ∧
        (writeAll tree (writes ++ [next])).file? path = (writeAll tree writes).file? path := by
  have place := normalize_congr (isTree_writeAll isTree writes).2 next.target
  have outcome := isAllOrNothing_write next.device (writeAll tree writes) next.target next.schedule
  rw [writeAll_concat, WritesTo, Write.run]
  generalize write next.device (writeAll tree writes) next.target next.schedule = result
    at outcome ⊢
  cases outcome with
  | all whole read others =>
    rw [others, place]
    by_cases here : tree.normalize next.target = path
    · exact .inl ⟨⟨here, _, rfl⟩, if_pos here.symm⟩
    · exact .inr ⟨fun written => here written.1, if_neg (Ne.symm here)⟩
  | nothing same =>
    refine .inr ⟨?_, same path⟩
    rintro ⟨-, text, written⟩
    cases written

/-- A file always has what was last written to it, or what it had at first. -/
theorem hasLast_writeAll (isTree : tree.IsTree) (writes : List (Write Data Days))
    (path : Path) : HasLast tree path writes ((writeAll tree writes).file? path) := by
  induction writes using List.reverseRecOn with
  | nil => exact .initial fun before next after split => by simp at split
  | append_singleton writes next ih =>
    rcases file?_writeAll_concat isTree next with ⟨written, here⟩ | ⟨missed, same⟩
    · rw [here]
      exact .last written fun before next after split => by simp at split
    · rw [same]
      generalize (writeAll tree writes).file? path = content at ih ⊢
      cases ih with
      | initial unwritten => exact .initial (unwritten_concat unwritten missed)
      | @last earlier later last written unwritten =>
        have longer := unwritten_concat unwritten (by simpa using missed)
        simpa using HasLast.last written longer

end Schedules

/-- In every tree and on every device, each write of a schedule is all or nothing and leaves no
other trace than new directories on the way to its destination, and over any number of writes each
file has what was last written to it or what it had at first. -/
theorem write_isAllOrNothing {Data Days : Type} [EventData Data] [Publishable Days]
    (tree : FileTree) (isTree : tree.IsTree) :
    (∀ (device : Device) (target : String) (schedule : Schedule Data Days),
      IsAllOrNothing tree target schedule (write device tree target schedule) ∧
        OnlyMakesWay tree (write device tree target schedule).1 (tree.normalize target)) ∧
    ∀ (writes : List (Write Data Days)) (path : Path),
      HasLast tree path writes ((writeAll tree writes).file? path) := by
  refine ⟨fun device target schedule => ⟨?_, ?_⟩, fun writes path => ?_⟩
  · exact isAllOrNothing_write device tree target schedule
  · exact onlyMakesWay_write isTree device target schedule
  · exact hasLast_writeAll isTree writes path

/-- A tree with two files in its working directory. -/
def shelf : FileTree :=
  { entries := [(["shelf"], .directory), (["shelf", "old.json"], .file [123, 125]),
      (["shelf", "plain"], .file [])]
    workingDirectory := ["shelf"] }

def blank (generatedAt : Text) : CheckedSchedule := ⟨generatedAt, .usual, [], []⟩

/-- Two writes to one file, of which the second is of a text with a half, and a third on a device
that has room for one byte only. -/
def attempts : List (Write Text Int) := [
  { target := "old.json", schedule := blank "first" },
  { target := "./old.json", schedule := blank [.ofNat 0xD800] },
  { target := "old.json", schedule := blank "third"
    device := { writing := some ⟨"OSError", "No space left on device"⟩, leftover := [123] } }]

theorem write_isAllOrNothing_shelf :
    shelf.IsTree ∧
      OnlyMakesWay shelf (write {} shelf "plain/new.json" (blank "first")).1
        ["shelf", "plain", "new.json"] ∧
      HasLast shelf ["shelf", "old.json"] attempts
        (some (Utf8.encode (blank "first").serialize)) := by
  have isTree : shelf.IsTree := isTree_of_entries (by decide)
  have once := (write_isAllOrNothing shelf isTree).1 {} "plain/new.json" (blank "first")
  have thrice := (write_isAllOrNothing shelf isTree).2 attempts ["shelf", "old.json"]
  have first : (writeAll shelf attempts).file? ["shelf", "old.json"] =
      some (Utf8.encode (blank "first").serialize) := by decide +kernel
  rw [first] at thrice
  exact ⟨isTree, once.2, thrice⟩

end Observance.Artifact

import Observance.Proofs.Build.Agreement

/-! # What a failed build leaves behind

Writing is all or nothing, so a build that fails up to then leaves every file as it was. An upload
comes after writing and may fail as well, and then the new schedule has already taken the place of
the previous one. So the previous schedule is left in place exactly by the failures that come no
later than writing, and by those after which the new schedule is the previous one.
-/

namespace Observance.Build

open Result Text

variable {world : World} {files : FileTree} {request : Json}

/-- The stages of a build get as far as a written text. -/
def Writes (world : World) (files : FileTree) (request : Json) (text : Text) : Prop :=
  ∃ draft left, (prepareAndWrite world request).run { files } = (.ok (draft, text), left)

/-- The path of the file that the output path gives. -/
def artifactPath (world : World) (files : FileTree) : Path :=
  files.normalize world.places.outputPath

/-- How the file at the output path was left: as it was if no text was written, and with that text
otherwise. -/
structure LeavesArtifact (world : World) (files : FileTree) (request : Json)
    (left : FileTree) : Prop where
  others : ∀ path, path ≠ artifactPath world files → left.file? path = files.file? path
  unwritten : (∀ text, ¬ Writes world files request text) →
    (∀ path, left.file? path = files.file? path) ∧ (files.IsTree →
      (left.read world.places.outputPath).toOption = (files.read world.places.outputPath).toOption)
  written : ∀ text, Writes world files request text →
    left.file? (artifactPath world files) = some (Utf8.encode text) ∧
      left.read world.places.outputPath = .ok (Utf8.encode text)

theorem not_writes_of_stopped {error : Error} {left : Progress}
    (stopped : (prepareAndWrite world request).run { files } = (.error error, left))
    (text : Text) : ¬ Writes world files request text := by
  rintro ⟨draft, other, writes⟩
  rw [stopped] at writes
  cases writes

theorem Ends.leavesArtifact {outcome : Except Error Summary} {left : Progress}
    (ends : Ends world files request outcome left) :
    LeavesArtifact world files request left.files := by
  cases ends with
  | unprepared prepares stopped =>
    exact {
      others := fun _ _ => rfl
      unwritten := fun _ => ⟨fun _ => rfl, fun _ => rfl⟩
      written := fun text writes => absurd writes (not_writes_of_stopped stopped text) }
  | unwritten prepares failure stopped =>
    have failed := Artifact.write_eq_error failure
    have same := (Artifact.addsDirectories_of_writeText failed).file?_eq
    exact {
      others := fun path _ => same path
      unwritten := fun _ => ⟨same, fun isTree => Artifact.read_of_writeText isTree failed⟩
      written := fun text writes => absurd writes (not_writes_of_stopped stopped text) }
  | written prepares success before afterwards =>
    obtain ⟨-, -, read, changed⟩ := Artifact.write_eq_ok success
    refine ⟨fun path apart => ?_, fun unwritten => absurd ⟨_, _, before⟩ (unwritten _), ?_⟩
    · exact (changed path).trans (if_neg apart)
    · rintro text ⟨draft, other, writes⟩
      rw [before] at writes
      cases writes
      exact ⟨(changed _).trans (if_pos rfl), read⟩

section Kept

variable {left : FileTree}

theorem LeavesArtifact.file?_eq_iff (leaves : LeavesArtifact world files request left) :
    left.file? (artifactPath world files) = files.file? (artifactPath world files) ↔
      ∀ text, Writes world files request text →
        files.file? (artifactPath world files) = some (Utf8.encode text) := by
  constructor
  · intro kept text writes
    rw [← kept]
    exact (leaves.written text writes).1
  · intro previous
    by_cases written : ∃ text, Writes world files request text
    · obtain ⟨text, writes⟩ := written
      exact (leaves.written text writes).1.trans (previous text writes).symm
    · exact (leaves.unwritten (not_exists.mp written)).1 _

theorem LeavesArtifact.read_eq_iff (leaves : LeavesArtifact world files request left)
    (isTree : files.IsTree) :
    (left.read world.places.outputPath).toOption =
        (files.read world.places.outputPath).toOption ↔
      ∀ text, Writes world files request text →
        files.read world.places.outputPath = .ok (Utf8.encode text) := by
  constructor
  · intro kept text writes
    rw [(leaves.written text writes).2] at kept
    exact toOption_eq_some.mp kept.symm
  · intro previous
    by_cases written : ∃ text, Writes world files request text
    · obtain ⟨text, writes⟩ := written
      rw [(leaves.written text writes).2, previous text writes]
    · exact (leaves.unwritten (not_exists.mp written)).2 isTree

end Kept

/-- A failed build leaves the previous artifact in place exactly if it did not get as far as a
written text, or if that is the text of the previous artifact. -/
theorem keepsArtifact_iff
    (failed : (run world files request).status? = some Report.failure) :
    (∀ path, path ≠ artifactPath world files →
      (run world files request).progress.files.file? path = files.file? path) ∧
    ((run world files request).progress.files.file? (artifactPath world files) =
        files.file? (artifactPath world files) ↔
      ∀ text, Writes world files request text →
        files.file? (artifactPath world files) = some (Utf8.encode text)) ∧
    (files.IsTree →
      (((run world files request).progress.files.read world.places.outputPath).toOption =
          (files.read world.places.outputPath).toOption ↔
        ∀ text, Writes world files request text →
          files.read world.places.outputPath = .ok (Utf8.encode text))) := by
  obtain ⟨report, reported, -⟩ := Finished.status?_eq_some.mp failed
  obtain ⟨outcome, progress, log, ends, left, -⟩ := ends_of_report world files request reported
  have leaves := ends.leavesArtifact
  rw [left]
  exact ⟨leaves.others, leaves.file?_eq_iff, leaves.read_eq_iff⟩

def refusal : UploadError := ⟨"NoSuchBucket", "The specified bucket does not exist"⟩

theorem failed_of_refusal :
    (run (bareWorld (some refusal)) bareFiles .null).status? = some Report.failure ∧
    (run (bareWorld (some refusal)) bareFiles .null).progress.files.file?
      (artifactPath (bareWorld (some refusal)) bareFiles) ≠ none := by
  decide +kernel

theorem file?_bareFiles :
    bareFiles.file? (artifactPath (bareWorld (some refusal)) bareFiles) = none := by
  decide +kernel

theorem keepsArtifact_iff_refusal :
    (run (bareWorld (some refusal)) bareFiles .null).status? = some Report.failure ∧
    ∃ text, Writes (bareWorld (some refusal)) bareFiles .null text := by
  obtain ⟨failed, changed⟩ := failed_of_refusal
  refine ⟨failed, ?_⟩
  have kept := (keepsArtifact_iff failed).2.1
  rw [file?_bareFiles] at kept
  by_contra unwritten
  exact changed (kept.mpr fun text writes => absurd ⟨text, writes⟩ unwritten)

/-- Not every failed build leaves the previous artifact in place: if the upload is refused, there is
a new file. -/
theorem exists_failed_changed : ¬ ∀ (world : World) (files : FileTree) (request : Json),
    (run world files request).status? = some Report.failure →
      (run world files request).progress.files.file? (artifactPath world files) =
        files.file? (artifactPath world files) := by
  intro kept
  obtain ⟨failed, changed⟩ := failed_of_refusal
  exact changed ((kept _ _ _ failed).trans file?_bareFiles)

end Observance.Build

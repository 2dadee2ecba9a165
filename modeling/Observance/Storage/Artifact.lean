import Observance.Schedule.Basic
import Observance.Storage.Tree

/-! # Writing the published schedule

A schedule is written to a staging file in the directory of its destination, which then takes the
place of the destination. So the destination never holds a part of a schedule, and a failure
leaves it as it was. Missing directories are made first, up to a name that cannot be one. After that
the schedule may turn out to have a text that cannot be encoded, and the device may fail at each
step; the staging file is removed then.
-/

namespace Observance

open Observance.Text

namespace Artifact

def stagingName (attempt : Nat) : String :=
  ".festivals-TMP" ++ (if attempt = 0 then "" else toString attempt) ++ ".json.tmp"

/-- A path in a directory at which there is nothing; there is one among as many names as there are
entries, and one more. -/
def stagingPath (tree : FileTree) (directory : Path) : Path :=
  let paths := (List.range (tree.entries.length + 1)).map fun attempt =>
    directory ++ [stagingName attempt]
  (paths.find? (!tree.has ·)).getD directory

/-- The most bytes that a staging file's name has. -/
def stagingNameSize : Nat := 28

/-- Why a schedule cannot be written. -/
inductive WritingError where
  | file (error : FileError)
  /-- The schedule has a text that no file can hold. -/
  | encoding (error : Utf8.EncodingError)
  | device (fault : DeviceFault)
deriving Repr, DecidableEq

namespace WritingError

def message : WritingError → Text
  | .file error => error.message
  | .encoding error => error.message
  | .device fault => fault.message

/-- The name of an error's kind in reports. -/
def kind : WritingError → String
  | .file error => error.kind
  | .encoding _ => Utf8.EncodingError.kind
  | .device fault => fault.kind

end WritingError

/-- What is in a file after a text was written to it, and the error if that fails. A text that
cannot be encoded leaves the file empty. -/
def fill (device : Device) (text : Text) : Bytes × Option WritingError :=
  match Utf8.encodingError? text with
  | some error => ([], some (.encoding error))
  | none =>
    match device.writing with
    | some fault => (device.leftover, some (.device fault))
    | none => (Utf8.encode text, none)

def move (device : Device) (tree : FileTree) (staging : Path) (destination : String) :
    Except WritingError FileTree :=
  match device.moving with
  | some fault => .error (.device fault)
  | none => (tree.rename staging destination).mapError .file

/-- Fills a staging file that is there and empty, and renames it. A failure removes it. -/
def replaceBy (device : Device) (tree : FileTree) (staging : Path) (destination : String)
    (text : Text) : FileTree × Option WritingError :=
  let (content, failure) := fill device text
  let filled := tree.put staging (.file content)
  match failure with
  | some error => (filled.remove staging, some error)
  | none =>
    match move device filled staging destination with
    | .ok renamed => (renamed, none)
    | .error error => (filled.remove staging, some error)

/-- Replaces a destination by way of a new staging file. -/
def replace (device : Device) (tree : FileTree) (directory : Path) (destination : String)
    (text : Text) : FileTree × Option WritingError :=
  let staging := stagingPath tree directory
  if Path.longestText < directory.text.utf8ByteSize + 1 + stagingNameSize then
    (tree, some (.file { cause := .nameTooLong, path := staging.text }))
  else
    match device.opening with
    | some fault => (tree, some (.device fault))
    | none => replaceBy device (tree.put staging (.file [])) staging destination text

/-- Writes a text to a destination. -/
def writeText (device : Device) (tree : FileTree) (destination : String) (text : Text) :
    FileTree × Option WritingError :=
  let directory := (tree.normalize destination).dropLast.takeWhile (!Path.hasNull ·)
  match tree.makeDirectories directory with
  | (tree, some error) => (tree, some (.file error))
  | (tree, none) => replace device tree directory destination text

/-- Writes a schedule to a destination; the result is the tree, and the text that was written. -/
def write {Data Days : Type} [EventData Data] [Publishable Days] (device : Device)
    (tree : FileTree) (destination : String) (schedule : Schedule Data Days) :
    FileTree × Except WritingError Text :=
  let text := schedule.serialize
  match writeText device tree destination text with
  | (tree, none) => (tree, .ok text)
  | (tree, some error) => (tree, .error error)

end Artifact

end Observance

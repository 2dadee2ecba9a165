import Observance.Json.Writer
import Observance.Storage.Document

/-! # Preferences

Preferences are values under names. They are kept in memory, or in a file that holds a JSON object.
A file that cannot be read, or that holds anything else, counts as empty. Only texts can be had back
from a file. Other values in the object are not preferences, but setting a preference keeps them.
-/

namespace Observance

open Observance.Text

/-- Values under names. -/
inductive Preferences where
  | memory (values : Fields)
  | file (tree : FileTree) (path : String)
deriving Repr

namespace Preferences

/-- The fields of a text that holds an object, and none otherwise. -/
def fieldsOfText (text : Text) : Fields :=
  match Json.read text with
  | .ok (.object fields) => fields
  | _ => []

def fieldsOf (tree : FileTree) (path : String) : Fields :=
  match tree.readText path with
  | .ok text => fieldsOfText text
  | .error _ => []

/-- Preferences are kept with two spaces for each level, in ASCII. -/
def layout : Json.Layout := ⟨some 2, true⟩

/-- The content of a file with some fields, which are put in the order of their names. -/
def contentOf (fields : Fields) : Bytes :=
  Utf8.encode ((Json.object fields).sortNames.write layout)

/-- The preference under a name. -/
def get? (preferences : Preferences) (name : Text) : Option Json :=
  match preferences with
  | .memory values => values.get? name
  | .file tree path => ((fieldsOf tree path).get? name).filter (·.text?.isSome)

/-- Why a preference cannot be set. -/
inductive SettingError where
  /-- The file cannot be opened to be written. -/
  | file (error : FileError)
  /-- The file was opened, but an integer has too many digits. -/
  | integer
  | device (fault : DeviceFault)
deriving Repr, DecidableEq

/-- The tree after setting a preference in a file, and the error if that fails. Opening the file
empties it, and what is left of it if it cannot be written then depends on the device. -/
def overwrite (device : Device) (tree : FileTree) (path : String) (name : Text) (value : Json) :
    FileTree × Option SettingError :=
  let fields := (fieldsOf tree path).put name value
  match device.opening, tree.write path [] with
  | some fault, _ => (tree, some (.device fault))
  | none, .error error => (tree, some (.file error))
  | none, .ok emptied =>
    let left := emptied.put (tree.normalize path) (.file device.leftover)
    match device.writing with
    | some fault => (left, some (.device fault))
    | none =>
      if (Json.object fields).sortNames.isWritable then
        (emptied.put (tree.normalize path) (.file (contentOf fields)), none)
      else (left, some .integer)

/-- The preferences after setting one, and the error if that fails. -/
def setOn (device : Device) (preferences : Preferences) (name : Text) (value : Json) :
    Preferences × Option SettingError :=
  match preferences with
  | .memory values => (.memory (values.put name value), none)
  | .file tree path =>
    let (tree, failure) := overwrite device tree path name value
    (.file tree path, failure)

/-- The preferences after setting one that can be written, on a device that does not fail. -/
def set (preferences : Preferences) (name : Text) (value : Json) :
    Except FileError Preferences :=
  match preferences with
  | .memory values => .ok (.memory (values.put name value))
  | .file tree path => do
    let tree ← tree.write path (contentOf ((fieldsOf tree path).put name value))
    return .file tree path

end Preferences

end Observance

import Observance.Text.Quoted
import Observance.Text.Utf8

/-! # File errors

An operation on files fails with a cause that has a number and a wording, and names the path, or
the two paths, that it was about. A path that cannot be one at all, because of a null character in
it, is refused without a number and without being named.

The device that holds the files may fail as well: when a file is opened to be written, after that,
when the file is already empty, or when it is renamed.
-/

namespace Observance

open Observance.Text

/-- Why an operation on files fails. -/
inductive FileCause where
  | notFound
  | busy
  | exists
  | notDirectory
  | isDirectory
  | nameTooLong
  | embeddedNull
deriving Repr, DecidableEq

namespace FileCause

def number? : FileCause → Option Nat
  | .notFound => some 2
  | .busy => some 16
  | .exists => some 17
  | .notDirectory => some 20
  | .isDirectory => some 21
  | .nameTooLong => some 36
  | .embeddedNull => none

def message : FileCause → String
  | .notFound => "No such file or directory"
  | .busy => "Device or resource busy"
  | .exists => "File exists"
  | .notDirectory => "Not a directory"
  | .isDirectory => "Is a directory"
  | .nameTooLong => "File name too long"
  | .embeddedNull => "embedded null byte"

/-- The name of a cause's kind in reports. -/
def kind : FileCause → String
  | .notFound => "FileNotFoundError"
  | .exists => "FileExistsError"
  | .notDirectory => "NotADirectoryError"
  | .isDirectory => "IsADirectoryError"
  | .busy | .nameTooLong => "OSError"
  | .embeddedNull => "ValueError"

end FileCause

/-- A failed operation on files. -/
structure FileError where
  cause : FileCause
  path : String
  target : Option String := none
deriving Repr, DecidableEq

namespace FileError

def message (error : FileError) : Text :=
  let paths : Text := match error.target with
    | some target => quote error.path ++ " -> " ++ quote target
    | none => quote error.path
  match error.cause.number? with
  | some number => s!"[Errno {number}] {error.cause.message}: " ++ paths
  | none => error.cause.message

/-- The name of an error's kind in reports. -/
def kind (error : FileError) : String := error.cause.kind

end FileError

/-- A failure of the device. -/
structure DeviceFault where
  kind : String
  message : Text
deriving Repr, DecidableEq

/-- How the device behaves when a file is written and renamed. -/
structure Device where
  /-- Why the file cannot be opened. -/
  opening : Option DeviceFault := none
  /-- Why the file cannot be written after it was opened. -/
  writing : Option DeviceFault := none
  /-- What is left in a file that was opened and could not be written. -/
  leftover : Bytes := []
  /-- Why a file that was written cannot be renamed. -/
  moving : Option DeviceFault := none
deriving Repr, DecidableEq

def Device.isSound (device : Device) : Bool := device.opening.isNone && device.writing.isNone

/-- Whether a file that cannot be written on a device is left as it was. -/
def Device.spares (device : Device) : Bool := device.opening.isSome || device.writing.isNone

end Observance

import Observance.Json.Reader
import Observance.Storage.Tree
import Observance.Text.LineEnd

/-! # Documents in files

The text of a file is its content decoded as UTF-8, with every line end as a line feed.
-/

namespace Observance

open Observance.Text

/-- Why a file has no text. -/
inductive TextFileError where
  | file (error : FileError)
  | encoding (error : Utf8.Error)
deriving Repr, DecidableEq

namespace TextFileError

def message : TextFileError → Text
  | .file error => error.message
  | .encoding error => error.message

/-- The name of an error's kind in reports. -/
def kind : TextFileError → String
  | .file error => error.kind
  | .encoding _ => "UnicodeDecodeError"

end TextFileError

namespace FileTree

/-- The text of a file. -/
def readText (tree : FileTree) (path : String) : Except TextFileError Text :=
  match tree.read path with
  | .error error => .error (.file error)
  | .ok content =>
    match Utf8.decode content with
    | .error error => .error (.encoding error)
    | .ok text => .ok (normalizeLineEnds text)

end FileTree

end Observance

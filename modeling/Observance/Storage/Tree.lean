import Observance.Storage.Error
import Observance.Text.Split
import Observance.Text.Utf8

/-! # File trees

A file tree has files and directories at paths, and a working directory that relative paths start
from. The texts of paths are followed name by name: every name but the last has to be that of a
directory, a single dot stays where it is, and two dots go to the parent.
-/

namespace Observance

open Observance.Text

/-- The names that lead from the root to a file or a directory. -/
abbrev Path := List String

/-- What is at a path. -/
inductive FileEntry where
  | directory
  | file (content : Bytes)
deriving Repr, DecidableEq

/-- Files and directories; the root is a directory and is not listed. -/
structure FileTree where
  entries : List (Path × FileEntry)
  workingDirectory : Path
deriving Repr

namespace Path

def text (path : Path) : String := "/" ++ "/".intercalate path

/-- The names in the text of a path; one that begins or ends in a slash, or has two in a row, has
empty names. -/
def namesOf (text : String) : List String := (splitAt '/' text.toList).map String.ofList

def isAbsolute (text : String) : Bool := text.toList.head? == some '/'

def longestName : Nat := 255

/-- The most bytes that the text of a path may have. -/
def longestText : Nat := 4095

def hasNull (text : String) : Bool := text.toList.contains '\x00'

/-- A path followed by names without looking at the tree. -/
def follow (path : Path) : List String → Path
  | [] => path
  | name :: names =>
    if name = "" ∨ name = "." then follow path names
    else if name = ".." then follow path.dropLast names
    else follow (path ++ [name]) names

end Path

namespace FileTree

def empty (workingDirectory : Path) : FileTree :=
  { entries := (List.range workingDirectory.length).map fun depth =>
      (workingDirectory.take (depth + 1), .directory)
    workingDirectory }

/-- What is at a path. -/
def get? (tree : FileTree) (path : Path) : Option FileEntry :=
  if path = [] then some .directory else tree.entries.lookup path

/-- Sets what is at a path in a list of entries. -/
def putEntry (path : Path) (entry : FileEntry) :
    List (Path × FileEntry) → List (Path × FileEntry)
  | [] => [(path, entry)]
  | (other, old) :: entries =>
    if other = path then (path, entry) :: entries
    else (other, old) :: putEntry path entry entries

def put (tree : FileTree) (path : Path) (entry : FileEntry) : FileTree :=
  { tree with entries := putEntry path entry tree.entries }

def remove (tree : FileTree) (path : Path) : FileTree :=
  { tree with entries := tree.entries.filter (·.1 ≠ path) }

def has (tree : FileTree) (path : Path) : Bool := (tree.get? path).isSome

def isDirectory (tree : FileTree) (path : Path) : Bool := tree.get? path == some .directory

def startOf (tree : FileTree) (text : String) : Path :=
  if Path.isAbsolute text then [] else tree.workingDirectory

/-- The path that a text gives without looking at the tree. -/
def normalize (tree : FileTree) (text : String) : Path :=
  (tree.startOf text).follow (Path.namesOf text)

/-- Follows names from a path. -/
def descend (tree : FileTree) (path : Path) : List String → Except FileCause Path
  | [] => .ok path
  | name :: names =>
    match tree.get? path with
    | none => .error .notFound
    | some (.file _) => .error .notDirectory
    | some .directory =>
      if name = "" ∨ name = "." then tree.descend path names
      else if name = ".." then tree.descend path.dropLast names
      else if Path.longestName < name.utf8ByteSize then .error .nameTooLong
      else if tree.has (path ++ [name]) then tree.descend (path ++ [name]) names
      else .error .notFound

def checkText (text : String) : Except FileCause Unit :=
  if Path.hasNull text then .error .embeddedNull
  else if text.isEmpty then .error .notFound
  else if Path.longestText < text.utf8ByteSize then .error .nameTooLong
  else .ok ()

def locate (tree : FileTree) (text : String) : Except FileCause Path := do
  checkText text
  tree.descend (tree.startOf text) (Path.namesOf text)

/-- What the last name of a text is. -/
inductive LastName where
  /-- A name of its own, and whether slashes follow it. -/
  | name (name : String) (hasSlash : Bool)
  /-- The root, the directory itself, or its parent. -/
  | special
deriving Repr, DecidableEq

/-- The names before the last, and the last, which empty names may follow. -/
def splitLast (names : List String) : List String × LastName :=
  let reversed := names.reverse
  match reversed.dropWhile (·.isEmpty) with
  | [] => ([], .special)
  | name :: earlier =>
    (earlier.reverse,
      if name = "." ∨ name = ".." then .special
      else .name name (reversed.head? == some ""))

def locateParent (tree : FileTree) (text : String) : Except FileCause (Path × LastName) := do
  checkText text
  let (parents, last) := splitLast (Path.namesOf text)
  let parent ← tree.descend (tree.startOf text) parents
  if tree.isDirectory parent then return (parent, last) else throw .notDirectory

def read (tree : FileTree) (text : String) : Except FileError Bytes :=
  match tree.locate text with
  | .error cause => .error { cause, path := text }
  | .ok path =>
    match tree.get? path with
    | some (.file content) => .ok content
    | some .directory => .error { cause := .isDirectory, path := text }
    | none => .error { cause := .notFound, path := text }

/-- The tree after writing a file in place. -/
def write (tree : FileTree) (text : String) (content : Bytes) : Except FileError FileTree :=
  let fail (cause : FileCause) : Except FileError FileTree := .error { cause, path := text }
  match tree.locateParent text with
  | .error cause => fail cause
  | .ok (_, .special) | .ok (_, .name _ true) => fail .isDirectory
  | .ok (parent, .name name false) =>
    if Path.longestName < name.utf8ByteSize then fail .nameTooLong
    else if tree.isDirectory (parent ++ [name]) then fail .isDirectory
    else .ok (tree.put (parent ++ [name]) (.file content))

def makeDirectory (tree : FileTree) (path : Path) : Except FileCause FileTree := do
  checkText path.text
  match tree.get? path.dropLast with
  | none => .error .notFound
  | some (.file _) => .error .notDirectory
  | some .directory =>
    if (path.getLast?.getD "").utf8ByteSize > Path.longestName then .error .nameTooLong
    else if tree.has path then .error .exists
    else .ok (tree.put path .directory)

/-- The tree after making a directory and those that it is in, and the error if that fails. The
directories made before an error remain. -/
def makeDirectories (tree : FileTree) (path : Path) : FileTree × Option FileError :=
  let parent := path.dropLast
  let (tree, failure) :=
    if path = [] ∨ tree.has parent then (tree, none) else tree.makeDirectories parent
  match failure with
  | some error => (tree, some error)
  | none =>
    match tree.makeDirectory path with
    | .ok made => (made, none)
    | .error cause =>
      if tree.isDirectory path then (tree, none)
      else (tree, some { cause, path := path.text })
termination_by path.length
decreasing_by
  have : path ≠ [] := fun empty => by simp_all
  have := List.length_pos_iff.mpr this
  simp only [List.length_dropLast]
  omega

/-- The tree with a file, and with the directories that it is in. -/
def withFile (tree : FileTree) (text : String) (content : Bytes) : FileTree :=
  let path := tree.normalize text
  (tree.makeDirectories path.dropLast).1.put path (.file content)

/-- The tree after renaming a file, which replaces a file of the new name. -/
def rename (tree : FileTree) (source : Path) (target : String) : Except FileError FileTree :=
  let fail (cause : FileCause) : Except FileError FileTree :=
    .error { cause, path := source.text, target := some target }
  match tree.get? source, tree.locateParent target with
  | some (.file content), .ok (parent, .name name hasSlash) =>
    if Path.longestName < name.utf8ByteSize then fail .nameTooLong
    else if hasSlash then fail .notDirectory
    else if tree.isDirectory (parent ++ [name]) then fail .isDirectory
    else .ok ((tree.remove source).put (parent ++ [name]) (.file content))
  | some (.file _), .ok (_, .special) => fail .busy
  | some (.file _), .error cause => fail cause
  | _, _ => fail .notFound

end FileTree

end Observance

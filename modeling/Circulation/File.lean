import Circulation.Text.Utf8
/-!
# Files

A path is kept by its components; empty components and single dots are dropped, and a path with no
components left is the current directory.  A directory tree is kept as the list of its files, each
with its path and content; a directory exists when a file lies below it.

The key constructions are `Path.ofString`, `Path.text` and `Files.read`.
-/

namespace Circulation

/-! ## Paths -/

/-- A path: its root, empty for a relative one, and its components. -/
structure Path where
  root : String
  parts : List String
deriving DecidableEq

namespace Path

/-- The root of a written path: exactly two leading slashes are a root of their own. -/
def rootOf (s : String) : String :=
  match s.toList with
  | '/' :: '/' :: '/' :: _ => "/"
  | '/' :: '/' :: _ => "//"
  | '/' :: _ => "/"
  | _ => ""

/-- The path that a text denotes. -/
def ofString (s : String) : Path :=
  ⟨rootOf s, (s.splitOn "/").filter fun part => part != "" && part != "."⟩

/-- The text of a path. -/
def text (p : Path) : String :=
  if p.root = "" ∧ p.parts = [] then "." else p.root ++ "/".intercalate p.parts

end Path

/-! ## Reading -/

/-- Why a file cannot be read. -/
inductive ReadError where
  | missing
  | isDirectory
  | notDirectory
  | denied
  | nulByte
  | failed (details : String)
deriving DecidableEq

namespace ReadError

/-- The word for the class of a reading error. -/
def className : ReadError → String
  | .missing => "FileNotFoundError"
  | .isDirectory => "IsADirectoryError"
  | .notDirectory => "NotADirectoryError"
  | .denied => "PermissionError"
  | .nulByte => "ValueError"
  | .failed _ => "OSError"

/-- The wording of a reading error. -/
def message (path : Path) : ReadError → String
  | .missing => "[Errno 2] No such file or directory: " ++ Text.quote path.text
  | .isDirectory => "[Errno 21] Is a directory: " ++ Text.quote path.text
  | .notDirectory => "[Errno 20] Not a directory: " ++ Text.quote path.text
  | .denied => "[Errno 13] Permission denied: " ++ Text.quote path.text
  | .nulByte => "embedded null byte"
  | .failed details => details ++ ": " ++ Text.quote path.text

end ReadError

/-! ## Directory trees -/

/-- A file with its place in the tree. -/
structure File where
  parts : List String
  content : List UInt8

/-- The files of a directory tree. -/
abbrev Files := List File

/-- What stands at a place of the tree. -/
inductive Node where
  | directory (place : List String)
  | file (content : List UInt8)

namespace Files

/-- What stands under a name in a directory. -/
def child? (fs : Files) (place : List String) (name : String) : Option Node :=
  let target := place ++ [name]
  match fs.find? fun f => f.parts == target with
  | some f => some (.file f.content)
  | none => if fs.any fun f => target.isPrefixOf f.parts then some (.directory target) else none

/-- Follows the components of a path; two dots lead back to the parent directory. -/
def walk (fs : Files) : Node → List String → Except ReadError Node
  | node, [] => .ok node
  | .file _, _ :: _ => .error .notDirectory
  | .directory place, part :: rest =>
    if part = ".." then walk fs (.directory place.dropLast) rest
    else
      match fs.child? place part with
      | some node => walk fs node rest
      | none => .error .missing

/-- The content of the file at a path. -/
def read (fs : Files) (path : Path) : Except ReadError (List UInt8) :=
  if path.text.toList.contains (Char.ofNat 0) then .error .nulByte
  else if path.root ≠ "" then .error .missing
  else do
    match ← walk fs (.directory []) path.parts with
    | .file content => .ok content
    | .directory _ => .error .isDirectory

end Files

end Circulation

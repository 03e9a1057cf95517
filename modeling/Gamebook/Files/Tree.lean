/-
# Trees of files

A part of a file system: files with their content, and folders.  A folder exists if it is listed
or if anything lies below it; the one at the top always does.  `FileTree.find` looks a path up
part by part, as a walk: every part but the last must be a folder, and double dots go up.  No
path reaches `Path.limit` bytes and no name in a folder is longer than `Path.nameLimit`.
-/
import Gamebook.Files.Path
import Gamebook.Text.Quoted

namespace Gamebook

variable {α : Type}

/-- Files and folders by their parts from the folder at the top. -/
structure FileTree (α : Type) where
  files : List (List String × α) := []
  folders : List (List String) := []
  /-- The folder in which paths start that are not absolute. -/
  here : List String := []

/-- What is found at the end of a path. -/
inductive Found (α : Type) where
  | file (content : α)
  | folder
  | missing
  /-- A part on the way is a file. -/
  | notFolder
  /-- The path or one of its parts is too long. -/
  | tooLong

/-- Why a file cannot be opened. -/
inductive OpenError where
  | missing
  | notFolder
  | isFolder
  | tooLong
  /-- The path holds a character that no path can hold. -/
  | badPath
deriving DecidableEq, Repr

/-- The wording of such a failure, for a path. -/
def OpenError.message (error : OpenError) (path : String) : String :=
  (match error with
    | .missing => "[Errno 2] No such file or directory: "
    | .notFolder => "[Errno 20] Not a directory: "
    | .isFolder => "[Errno 21] Is a directory: "
    | .tooLong => "[Errno 36] File name too long: "
    | .badPath => "embedded null byte: ") ++ Text.quoted path

namespace FileTree

/-- Whether the parts lead to a folder. -/
def isFolder (t : FileTree α) (parts : List String) : Bool :=
  parts.isEmpty || t.folders.any (parts.isPrefixOf ·)
    || t.files.any fun file => parts.isPrefixOf file.1 && parts != file.1

/-- What lies at some parts without double dots. -/
def at? (t : FileTree α) (parts : List String) : Found α :=
  if t.isFolder parts then .folder
  else match t.files.find? (·.1 == parts) with
    | some file => .file file.2
    | none => .missing

/-- Walks along parts from a folder: the parts without double dots to which the last one leads,
or why there is no way.  At the top, double dots lead nowhere else. -/
def walk (t : FileTree α) (here : List String) : List String → Except OpenError (List String)
  | [] => .ok here
  | part :: rest =>
    match t.at? here with
    | .folder =>
      if part = ".." then walk t here.dropLast rest
      else if Path.nameLimit < part.utf8ByteSize then .error .tooLong
      else walk t (here ++ [part]) rest
    | .missing => .error .missing
    | _ => .error .notFolder

/-- The parts that a path leads to. -/
def resolve (t : FileTree α) (p : Path) : Except OpenError (List String) :=
  if p.hasNull then .error .badPath
  else if Path.limit ≤ p.text.utf8ByteSize then .error .tooLong
  else t.walk (if p.isAbsolute then [] else t.here) p.parts

/-- What a path leads to. -/
def find (t : FileTree α) (p : Path) : Found α :=
  match t.resolve p with
  | .ok parts => t.at? parts
  | .error .notFolder => .notFolder
  | .error .tooLong => .tooLong
  | .error _ => .missing

/-- The content of the file at a path. -/
def read (t : FileTree α) (p : Path) : Except OpenError α := do
  match t.at? (← t.resolve p) with
  | .file content => .ok content
  | .folder => .error .isFolder
  | _ => .error .missing

/-- The tree with a file of the given content at a path, where a file can be written. -/
def write (t : FileTree α) (p : Path) (content : α) : Except OpenError (FileTree α) := do
  let parts ← t.resolve p
  match t.at? parts with
  | .folder => .error .isFolder
  | _ =>
    if t.isFolder parts.dropLast then
      return { t with files := (parts, content) :: t.files.filter (·.1 != parts) }
    else .error .missing

/-- The names in a folder, each once. -/
def names (t : FileTree α) (p : Path) : List String :=
  match t.resolve p with
  | .ok parts =>
    let below := (t.files.map Prod.fst ++ t.folders).filterMap fun other =>
      if parts.isPrefixOf other then other[parts.length]? else none
    below.eraseDups
  | .error _ => []

end FileTree
end Gamebook

/-
# Paths

A path is a list of parts, behind a root if it does not start from the current folder.  Empty
parts and single dots do not count; double dots stay, and are resolved only where the path is
looked up.  The root is one slash; two slashes are a root of their own, three or more are one.
-/
import Gamebook.Text.Split

namespace Gamebook

/-- A path to a file or a folder. -/
structure Path where
  root : String := ""
  parts : List String
deriving DecidableEq, Inhabited

namespace Path

/-- The root that a text starts with; none for a path from the current folder. -/
def rootOf (cs : List Char) : String :=
  match (cs.takeWhile (· = '/')).length with
  | 0 => ""
  | 2 => "//"
  | _ => "/"

/-- The path that a text names. -/
def ofText (text : String) : Path :=
  let parts := (Text.splitAt '/' text.toList).map String.ofList
  ⟨rootOf text.toList, parts.filter fun part => part != "" && part != "."⟩

/-- No path is as long as this, in bytes. -/
def limit : Nat := 4096

/-- No name in a folder is longer than this, in bytes. -/
def nameLimit : Nat := 255

/-- Whether a path holds the null character, which no file system admits. -/
def hasNull (p : Path) : Bool := p.parts.any fun part => part.toList.contains '\x00'

/-- Whether a path does not start from the current folder. -/
def isAbsolute (p : Path) : Bool := p.root != ""

/-- A path as text; the empty one is a dot. -/
def text (p : Path) : String :=
  if p.root == "" && p.parts.isEmpty then "." else p.root ++ "/".intercalate p.parts

/-- The last part of a path; the empty one has an empty name. -/
def name (p : Path) : String := p.parts.getLast?.getD ""

/-- The path of something in a folder. -/
def child (p : Path) (name : String) : Path := { p with parts := p.parts ++ [name] }

end Path
end Gamebook

/-
# The program on a terminal

The outer layer: it looks at the files that the options name, shows what the program leads to,
and types the player's lines to the console one by one.  What a console wrote to its files is
written to the disk after every line.
-/
import Gamebook.CommandLine.Program

namespace Gamebook.Terminal

/-! ## 1. Files -/

/-- The places that a path leads through from a folder, each without double dots. -/
def places (here : List String) (path : Path) : List (List String) :=
  let start := if path.isAbsolute then [] else here
  let steps := path.parts.foldl (fun (place, passed) part =>
    let next := if part = ".." then place.dropLast else place ++ [part]
    (next, passed ++ [next])) (start, [start])
  steps.2

/-- The name of a place on the disk. -/
def diskName (place : List String) : String := "/" ++ "/".intercalate place

/-- Adds what lies at a place. -/
def look (tree : FileTree Bytes) (place : List String) : IO (FileTree Bytes) := do
  let file := (← IO.currentDir) / diskName place
  if ← file.isDir then return { tree with folders := place :: tree.folders }
  else if ← file.pathExists then
    return { tree with files := (place, (← IO.FS.readBinFile file).toList) :: tree.files }
  else return tree

/-- Adds what lies along a path. -/
def lookAlong (tree : FileTree Bytes) (path : Path) : IO (FileTree Bytes) :=
  (places tree.here path).foldlM look tree

/-- Adds what lies in a folder. -/
def lookInside (tree : FileTree Bytes) (folder : Path) : IO (FileTree Bytes) := do
  let tree ← lookAlong tree folder
  let disk := (← IO.currentDir) / folder.text
  if ← disk.isDir then
    (← disk.readDir).foldlM (fun tree entry => lookAlong tree (folder.child entry.fileName)) tree
  else return tree

/-- The files that the options name. -/
def survey (options : Options) : IO (FileTree Bytes) := do
  let here := (Path.ofText (← IO.currentDir).toString).parts
  let folder := Path.ofText (options.story.getD Opening.usualStory)
  let tree ← lookAlong { here } (Path.ofText options.save)
  lookInside (← lookInside tree folder) (folder.child "data")

/-- Writes the files that changed. -/
def writeBack (before after : FileTree Bytes) : IO Unit := do
  for (place, content) in after.files do
    if before.files.lookup place ≠ some content then
      IO.FS.writeBinFile (diskName place) ⟨content.toArray⟩

/-! ## 2. Conversations -/

/-- Shows what was told since an earlier moment. -/
def showNews (shown : Nat) (c : Console) : IO Unit := do
  for exchange in c.transcript.toList.drop shown do
    match exchange with
    | .told message => IO.println message.wording.asString
    | .asked .. => pure ()

/-- The prompt of a pause. -/
def prompt : Pause → String
  | .command _ => Console.commandPrompt
  | .again => Console.againPrompt
  | .done => ""

/-- A fault as the end of the program. -/
def abort (fault : Fault) : IO UInt32 := do
  IO.eprintln ("fault: " ++ fault.message)
  return 1

/-- Goes on from a pause until the console is done. -/
partial def converse (c : Console) (pause : Pause) : IO UInt32 := do
  if pause = .done then return 0
  IO.print (prompt pause)
  (← IO.getStdout).flush
  let line ← (← IO.getStdin).getLine
  let shown := c.transcript.size
  if line.isEmpty then
    showNews shown (c.close pause)
    return 0
  match c.answer pause (String.ofList (line.toList.filter (· ≠ '\n'))) with
  | .ok (next, pause) =>
    showNews shown next
    writeBack c.files next.files
    converse next pause
  | .error crash =>
    showNews shown crash.console
    writeBack c.files crash.console.files
    abort crash.fault

/-- Starts a console. -/
def startConsole (c : Console) : IO UInt32 := do
  match c.begin with
  | .ok (next, pause) =>
    showNews 0 next
    converse next pause
  | .error crash =>
    showNews 0 crash.console
    abort crash.fault

/-- Shows an opening, and plays it if there is something to play. -/
def present (opening : Opening) : IO UInt32 := do
  match opening with
  | .failed error => IO.eprintln (Opening.failedLine error)
  | .checked problems => (Opening.checkedLines problems).forM fun line => IO.println line.asString
  | .playing console => return ← startConsole console
  return UInt32.ofNat opening.exitCode

/-- How the program is called. -/
def usage : String :=
  "usage: gamebook [-h] [--save SAVE] [--seed SEED] [--validate] [--log-level LEVEL] [story]"

end Gamebook.Terminal

open Gamebook Terminal in
/-- Plays a story on the terminal. -/
def main (arguments : List String) : IO UInt32 := do
  match Options.ofArguments arguments with
  | .error .help =>
    IO.println usage
    return 0
  | .error .wrong =>
    IO.eprintln usage
    return 2
  | .ok options =>
    let files ← survey options
    let chance := Source.ofSeed (Int.ofNat (← IO.rand 0 UInt32.size))
    match Opening.ofOptions true options files chance with
    | .ok opening => present opening
    | .error fault => abort fault

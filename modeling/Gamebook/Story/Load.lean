/-
# Loading a story from its folder

A story lies in a folder: the manifest `story.yaml`, and a folder `data` whose files with names
ending in `.yaml` are its data documents.  They are read in the order of their names; the first
thing that goes wrong, in the manifest and then document by document, ends the loading.

How a file becomes a document is a parameter: a `Decoder` gives the document of a file, or tells
that the file cannot be read.
-/
import Gamebook.Datum.Decoder
import Gamebook.Files.Tree
import Gamebook.Story.Document

namespace Gamebook

/-- Why a story cannot be loaded. -/
inductive LoadError where
  | notFound (folder : Path)
  | unreadable (file : Path)
  | shape (file : Path) (misshape : Misshape)

namespace LoadError

/-- The wording of a failure.  Why a file cannot be read is not told. -/
def message : LoadError → String
  | .notFound folder => "Story directory '" ++ folder.text ++ "' not found"
  | .unreadable file => "Cannot read '" ++ file.text ++ "'"
  | .shape file misshape => misshape.message file.text

/-- The file or folder that is to blame. -/
def path : LoadError → Path
  | .notFound folder => folder
  | .unreadable file | .shape file _ => file

end LoadError

/-- What ends the loading of a story: something about its content, or a fault. -/
inductive LoadFailure where
  | content (error : LoadError)
  | fault (fault : Fault)

namespace Story

variable {α δ : Type}

/-- The document of a file. -/
def document (decoder : Decoder α δ) (tree : FileTree α) (file : Path) : Except LoadFailure δ :=
  match tree.read file with
  | .error _ => .error (.content (.unreadable file))
  | .ok content =>
    match decoder content with
    | .ok found => .ok found
    | .error .unreadable => .error (.content (.unreadable file))
    | .error (.fault fault) => .error (.fault fault)

/-- What is wrong with the document of a file, as the end of the loading. -/
def failure (file : Path) : DocumentError → LoadFailure
  | .shape misshape => .content (.shape file misshape)
  | .fault fault => .fault fault

/-- Whether a name is that of a data document. -/
def isDataName (name : String) : Bool := ".yaml".toList.isSuffixOf name.toList

/-- The data documents of a story folder, in the order of their names. -/
def dataFiles (tree : FileTree α) (folder : Path) : List Path :=
  let data := folder.child "data"
  match tree.find data with
  | .folder =>
    (((tree.names data).filter isDataName).mergeSort fun a b => Text.le a b).map data.child
  | _ => []

section

variable [Layered δ]

/-- The manifest of a story folder; without a manifest the story is named for its folder. -/
def manifest (logs : Bool) (decoder : Decoder α δ) (tree : FileTree α) (folder : Path) :
    Except LoadFailure Manifest :=
  let file := folder.child "story.yaml"
  match tree.find file with
  | .missing | .notFolder => .ok { id := folder.name }
  | .tooLong => .error (.fault .pathTooLong)
  | _ => do
    let found ← document decoder tree file
    (Manifest.ofDocument logs folder.name found).mapError (failure file)

/-- Adds the data documents one after another. -/
def addFiles (decoder : Decoder α δ) (tree : FileTree α) :
    Draft → List Path → Except LoadFailure Draft
  | draft, [] => .ok draft
  | draft, file :: rest => do
    let found ← document decoder tree file
    let next ← (draft.addDocument found).mapError (failure file)
    addFiles decoder tree next rest

/-- **Loads the story of a folder**; `logs` is whether warnings are written. -/
def load (logs : Bool) (decoder : Decoder α δ) (tree : FileTree α) (folder : Path) :
    Except LoadFailure (Story × Manifest) :=
  match tree.find folder with
  | .folder => do
    let info ← manifest logs decoder tree folder
    let draft ← addFiles decoder tree {} (dataFiles tree folder)
    return (draft.story, info)
  | .tooLong => .error (.fault .pathTooLong)
  | _ => .error (.content (.notFound folder))

end

end Story
end Gamebook

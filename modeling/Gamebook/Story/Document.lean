/-
# Stories from documents

A story is written as decoded documents: a manifest, and data documents with lists of scenes,
dialogues, choices, characters and variables.  Entries are read in the order in which they are
written, document after document; a line without an integer as its id gets the next free one.

Everything inside an entry is tolerated, except what cannot be shown: an integer with too many
digits, or something that is nested too deeply.
What must have its shape is the document, its sections and the entries of its lists: `Misshape`
names the first that has not.  Sections are read one after another, so that what is wrong with a
section is met after the entries of the sections before it.
-/
import Gamebook.Story.Basic
import Gamebook.Story.Manifest

namespace Gamebook

/-- A part of a document that has not the shape it must have. -/
inductive Misshape where
  /-- The document is no mapping. -/
  | document
  /-- A section of the manifest is no mapping. -/
  | mapping (part : String)
  /-- A section of a data document is no list. -/
  | list (part : String)
  /-- An entry of a list is no mapping; `found` is how messages show it. -/
  | entry (part found : String)
deriving DecidableEq

/-- The wording of a misshape, for the path of the document. -/
def Misshape.message (path : String) : Misshape → String
  | .document => "'" ++ path ++ "' must contain a mapping"
  | .mapping part => "'" ++ path ++ "': " ++ part ++ " must be a mapping"
  | .list part => "'" ++ path ++ "': " ++ part ++ " must be a list"
  | .entry part found =>
    "'" ++ path ++ "': " ++ part ++ " entries must be mappings, got " ++ found

/-- What ends the reading of a document. -/
inductive DocumentError where
  | shape (misshape : Misshape)
  | fault (fault : Fault)
deriving DecidableEq

/-- A fault as the end of the reading. -/
def orFault {α : Type} (result : Except Fault α) : Except DocumentError α :=
  result.mapError .fault

section

variable {δ : Type} [Layered δ]

/-! ## 1. Fields and sections -/

namespace Fields

/-- The content of a field, or what it is if it is missing. -/
def contentOr (fields : Fields δ) (name missing : Text) : Except Fault Text :=
  match fields.named? name with
  | some d => Layered.content d
  | none => .ok missing

/-- The content of a field; nothing if it is missing. -/
def content (fields : Fields δ) (name : Text) : Except Fault Text := fields.contentOr name []

/-- A section of a manifest: a mapping; null is an empty one. -/
def ofSection (name : String) (found : δ) : Except DocumentError (Fields δ) :=
  match Layered.layer found with
  | .atom .null => .ok []
  | .map fields => .ok fields
  | _ => .error (.shape (.mapping name))

/-- A section of a manifest by its name; a missing one is empty. -/
def section? (fields : Fields δ) (name : String) : Except DocumentError (Fields δ) :=
  match fields.named? name with
  | some found => ofSection name found
  | none => .ok []

/-- The mapping that an entry of a list must be. -/
def ofEntry (name : String) (found : δ) : Except DocumentError (Fields δ) :=
  match Layered.layer found with
  | .map fields => .ok fields
  | _ => do throw (.shape (.entry name (← orFault (Layered.shown found))))

/-- The entries of a section of a data document: mappings; null and a missing section have
none. -/
def entries (fields : Fields δ) (name : String) : Except DocumentError (List (Fields δ)) :=
  match (fields.named? name).map Layered.layer with
  | none | some (.atom .null) => .ok []
  | some (.list items) => items.mapM (ofEntry name)
  | some _ => .error (.shape (.list name))

/-- The mapping that a document must be; null is the empty one. -/
def ofDocument (document : δ) : Except DocumentError (Fields δ) :=
  match Layered.layer document with
  | .atom .null => .ok []
  | .map fields => .ok fields
  | _ => .error (.shape .document)

/-- An entry of a section whose keys and values are texts. -/
def textEntry (entry : Atom × δ) : Except Fault (Text × Text) := do
  return (← entry.1.plain, ← Layered.content entry.2)

/-- The table of a section whose keys and values are texts. -/
def texts (fields : Fields δ) : Except Fault (Table Text) :=
  (fields.mapM textEntry).map Table.ofList

end Fields

/-! ## 2. The manifest -/

/-- Reads a manifest.  Its contents stand in the section `story` or, without one, in the
document itself; a story without an id is named for its folder.  `logs` is whether warnings are
written. -/
def Manifest.ofDocument (logs : Bool) (folder : Text) (document : δ) :
    Except DocumentError Manifest := do
  let fields ← Fields.ofDocument document
  let story ← match fields.named? "story" with
    | some found => Fields.ofSection "story" found
    | none => pure fields
  let labels ← story.section? "scene_labels"
  let transitions ← story.section? "transition_text"
  let id ← orFault (story.content "id")
  return {
    id := if id.isEmpty then folder else id
    title := ← orFault (story.content "title")
    version := ← orFault (story.contentOr "version" "1.0.0")
    author := ← orFault (story.content "author")
    description := ← orFault (story.content "description")
    sceneLabels := ← orFault labels.texts
    transitionTexts := ← orFault transitions.texts
    config := ← orFault (Config.ofFields logs (← story.section? "engine")) }

/-! ## 3. Data documents -/

namespace Fields

/-- The scene that an entry describes. -/
def scene (fields : Fields δ) : Except Fault Scene := do
  return ⟨← fields.content "scene_id", ← fields.content "scene_name", ← fields.content "bg_image",
    ← fields.content "bgm"⟩

/-- The id that an entry gives its line: only an integer is one. -/
def lineId? (fields : Fields δ) : Option Int :=
  match (fields.named? "id").map Layered.layer with
  | some (.atom (.number (.int n))) => some n
  | _ => none

/-- The line that an entry describes, with its id. -/
def line (fields : Fields δ) (id : Int) : Except Fault Line := do
  return ⟨id, ← fields.content "scene_id", ← fields.content "character", ← fields.content "text",
    ← fields.content "expression"⟩

/-- The choice that an entry describes. -/
def choice (fields : Fields δ) : Except Fault Choice := do
  return ⟨← fields.content "choice_id", ← fields.content "option_text",
    ← fields.content "condition", ← fields.content "effect", ← fields.content "next_scene",
    ← fields.content "response"⟩

/-- The character that an entry describes. -/
def character (fields : Fields δ) : Except Fault Character := do
  return ⟨← fields.content "character_id", ← fields.content "display_name",
    ← fields.content "color", ← fields.content "default_image"⟩

/-- The variable that an entry defines; its first value is zero if none is given. -/
def variableDef (fields : Fields δ) : Except Fault VariableDef := do
  return ⟨← fields.content "var_name", ← fields.contentOr "default_value" "0",
    ← fields.content "description"⟩

end Fields

/-- A story while it is read, with the next id that a line gets by itself. -/
structure Draft where
  story : Story := {}
  nextId : Int := 1
deriving DecidableEq, Inhabited

namespace Draft

/-- Adds a line: with its own id or, without one, with the next. -/
def addLine (draft : Draft) (fields : Fields δ) : Except Fault Draft := do
  let id := fields.lineId?.getD draft.nextId
  let line ← fields.line id
  return {
    story := { draft.story with lines := draft.story.lines ++ [line] }
    nextId := max draft.nextId id + 1 }

/-- Reads all entries of a section. -/
def readAll {α : Type} (fields : Fields δ) (name : String) (read : Fields δ → Except Fault α) :
    Except DocumentError (List α) := do
  orFault ((← fields.entries name).mapM read)

/-- Adds the content of a data document. -/
def addDocument (draft : Draft) (document : δ) : Except DocumentError Draft := do
  let fields ← Fields.ofDocument document
  let scenes ← readAll fields "scenes" Fields.scene
  let draft ← orFault ((← fields.entries "dialogues").foldlM addLine draft)
  let choices ← readAll fields "choices" Fields.choice
  let characters ← readAll fields "characters" Fields.character
  let variableDefs ← readAll fields "variables" Fields.variableDef
  let story := draft.story
  return { draft with story := {
    story with
    scenes := story.scenes ++ scenes
    choices := story.choices ++ choices
    characters := story.characters ++ characters
    variableDefs := story.variableDefs ++ variableDefs } }

end Draft

end

end Gamebook

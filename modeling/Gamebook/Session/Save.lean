/-
# Save data

What is needed to take a session up again: the scene, the place in it and the variables.
`Save.ofDatum` accepts exactly the save format and says which field is wrong otherwise;
`Save.toDatum` and `Save.written` write it.  `Save.ofBytes` reads a save file.
-/
import Gamebook.Datum.Printer
import Gamebook.Json.Printer
import Gamebook.Json.Reader
import Gamebook.Text.LineEnd
import Gamebook.Text.Utf8
import Gamebook.Variable.Store

namespace Gamebook

/-- A snapshot of a session; the place may be any integer. -/
structure Save where
  scene : Text
  index : Int
  /-- The variables. -/
  store : Store
deriving DecidableEq, Inhabited

namespace Save

/-! ## 1. Reading a document -/

/-- What is wrong with save data. -/
inductive Flaw where
  | notMapping
  | scene (found : Datum)
  | index (found : Datum)
  | store (found : Datum)
  | variable (name : Atom) (value : Datum)

/-- The wording of a flaw, unless what was found cannot be shown. -/
def Flaw.message : Flaw → Except Fault String
  | .notMapping => .ok "save data must be a mapping"
  | .scene found => do return "scene_id must be a string, got " ++ (← found.shown)
  | .index found => do return "dialogue_index must be an integer, got " ++ (← found.shown)
  | .store found => do return "variables must be a mapping, got " ++ (← found.shown)
  | .variable name value => do
    return "variable " ++ (← name.shown) ++ " has unsupported value " ++ (← value.shown)

/-- The field that a flaw is found in; none for the whole. -/
def Flaw.field : Flaw → Option String
  | .notMapping => none
  | .scene _ => some "scene_id"
  | .index _ => some "dialogue_index"
  | .store _ | .variable .. => some "variables"

/-- Whether a datum counts as nothing: null, false, zero, or empty. -/
def isVoid : Datum → Bool
  | .atom .null => true
  | .atom (.bool b) => !b
  | .atom (.number n) => n.same .zero
  | .atom (.text t) => t.isEmpty
  | .atom (.bytes bs) => bs.isEmpty
  | .list items => items.isEmpty
  | .map fields => fields.isEmpty
  | _ => false

/-- The variable that an entry of a mapping is: a name with a truth value or a number. -/
def namedValue? : Atom × Datum → Except Flaw (Text × Value)
  | (.text name, .atom (.bool b)) => .ok (name, .bool b)
  | (.text name, .atom (.number n)) => .ok (name, .number n)
  | (name, value) => .error (.variable name value)

/-- Reads the scene. -/
def sceneOf (fields : Fields Datum) : Except Flaw Text :=
  match fields.named? "scene_id" with
  | none => .ok []
  | some (.atom (.text t)) => .ok t
  | some found => .error (.scene found)

/-- Reads the place. -/
def indexOf (fields : Fields Datum) : Except Flaw Int :=
  match fields.named? "dialogue_index" with
  | none => .ok 0
  | some (.atom (.number (.int n))) => .ok n
  | some found => .error (.index found)

/-- Reads the variables; nothing at all is no variables. -/
def storeOf (fields : Fields Datum) : Except Flaw Store :=
  match fields.named? "variables" with
  | none => .ok .empty
  | some found =>
    if isVoid found then .ok .empty
    else match found with
      | .map entries => (entries.mapM namedValue?).map Table.ofList
      | _ => .error (.store found)

/-- **Reads save data**; of several flaws the first in the order scene, place, variables. -/
def ofDatum : Datum → Except Flaw Save
  | .map fields => do
    return ⟨← sceneOf fields, ← indexOf fields, ← storeOf fields⟩
  | _ => .error .notMapping

/-! ## 2. Writing -/

/-- Save data as a document. -/
def toDatum (save : Save) : Datum :=
  .map [(.text "scene_id", .text save.scene), (.text "dialogue_index", .int save.index),
    (.text "variables",
      .map (save.store.entries.map fun (name, value) => (.text name, .atom (.ofValue value))))]

/-- Save data as the pieces of a save file. -/
def pieces (save : Save) : Json.Pieces :=
  Json.objectPieces 0
    [("scene_id", [Json.renderText save.scene]),
     ("dialogue_index", [Json.renderNumber (.int save.index)]),
     ("variables", Json.objectPieces 1
       (save.store.entries.map fun (name, value) => (name, [Json.renderValue value])))]

/-- **Writes save data**: what reaches the save file, and the fault that ends the writing. -/
def written (save : Save) : String × Option Fault := save.pieces.written

/-! ## 3. Save files -/

/-- Why the content of a file is no save data. -/
inductive Unreadable where
  | notUtf8 (failure : Utf8.Failure)
  | notJson (text : List Char) (failure : Json.Failure)
  | flawed (flaw : Flaw)

/-- The fault that a reason comes to, if it is one that ends an operation. -/
def Unreadable.fault? : Unreadable → Option Fault
  | .notUtf8 _ => none
  | .notJson _ failure => if failure.cause = .tooDeep then some .tooDeep else none
  | .flawed flaw =>
    match flaw.message with
    | .error .tooDeep => some .tooDeep
    | _ => none

/-- The wording of a reason. -/
def Unreadable.message : Unreadable → String
  | .notUtf8 failure => failure.message
  | .notJson text failure => failure.message text
  | .flawed flaw =>
    match flaw.message with
    | .ok message => message
    | .error fault => fault.message

/-- Reads the content of a save file. -/
def ofBytes (content : Bytes) : Except Unreadable Save := do
  let text ← (Utf8.decode content).mapError .notUtf8
  let text := Text.withLineFeeds text
  let found ← (Json.read text).mapError (.notJson text)
  (ofDatum found).mapError .flawed

end Save
end Gamebook

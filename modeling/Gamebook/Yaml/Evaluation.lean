/-
# The evaluation of a document

While nodes become parts, an evaluation holds both.  Two rules change the nodes on the way.

* **Merging.**  A mapping takes over the entries of the mappings under its merge keys: they come
  in front of its own, in the order of the merge keys, and of several mappings under one merge
  key the last one comes first.  `Evaluation.merge` does it, when the mapping is visited or merged
  into another one.
* **Values.**  Where a scalar is needed, a mapping stands for the scalar under its value key.
  Once the mapping is merged, that key is a text like any other.
-/
import Gamebook.Yaml.Node
import Gamebook.Yaml.Part
import Gamebook.Yaml.Scalar

namespace Gamebook.Yaml

/-- A document whose nodes partly have become parts.  The part of a node has the place of the
node; further parts follow behind. -/
structure Evaluation where
  nodes : Array Node
  /-- The parts so far.  What stands for a collection is not complete before it is visited. -/
  parts : Array (Option Part)
  /-- The places of the collections that are still to be visited, the last one first. -/
  waiting : List Nat := []

/-- A step of an evaluation. -/
abbrev Evaluate := StateT Evaluation Reading

namespace Evaluation

/-- How far scalars and mappings are looked for along chains of keys.  The bound is what is left of
the call stack, as in `Json.depthLimit`. -/
def chainLimit : Nat := 985

/-- A node. -/
def node (e : Evaluation) (place : Nat) : Node := e.nodes.getD place default

/-- The tag of a node. -/
def tag (e : Evaluation) (place : Nat) : Tag := (e.node place).tag

/-- Changes a node. -/
def change (place : Nat) (f : Node → Node) : Evaluate Unit :=
  modify fun e => { e with nodes := e.nodes.modify place f }

/-- The entries of a mapping; anything else is none. -/
def entries (place : Nat) : Evaluate (List (Nat × Nat)) := do
  match ((← get).node place).content with
  | .mapping entries => return entries
  | _ => throw .unreadable

/-! ## 1. Scalars -/

/-- The text of a scalar, or of the scalar that a mapping stands for. -/
def scalarText : Nat → Nat → Evaluate Text
  | 0, _ => throw (.fault .tooDeep)
  | limit + 1, place => do
    let e ← get
    match (e.node place).content with
    | .scalar text => return text
    | .mapping entries =>
      match entries.find? fun entry => e.tag entry.1 = .value with
      | some (_, value) => scalarText limit value
      | none => throw .unreadable
    | .sequence _ => throw .unreadable

/-- What a node stands for, if its tag is one of scalars. -/
def atom (place : Nat) : Evaluate Atom := do
  let node := (← get).node place
  if !node.tag.isScalar then throw .unreadable
  let text ← scalarText chainLimit place
  match node.tag, node.content with
  | .timestamp, .mapping _ => throw (.fault .noText)
  | tag, _ => Scalar.atom tag text

/-! ## 2. Merging -/

/-- Takes the first merge key out of the entries of a mapping; returns what stands under it. -/
def takeMergeKey (place : Nat) : Evaluate (Option Nat) := do
  let entries ← entries place
  let e ← get
  match entries.findIdx? fun entry => e.tag entry.1 = .merge with
  | none => return none
  | some index =>
    change place fun node => { node with content := .mapping (entries.eraseIdx index) }
    return entries[index]?.map Prod.snd

/-- The entries of a mapping after it was merged by `merge`. -/
def mergedEntries (merge : Nat → Evaluate Unit) (place : Nat) : Evaluate (List (Nat × Nat)) := do
  let _ ← entries place
  merge place
  entries place

/-- The entries that the first merge key of a mapping brings in. -/
def broughtIn (merge : Nat → Evaluate Unit) (place : Nat) : Evaluate (List (Nat × Nat)) := do
  match ← takeMergeKey place with
  | none => return []
  | some value =>
    match ((← get).node value).content with
    | .sequence items => return (← items.mapM (mergedEntries merge)).reverse.flatten
    | _ => mergedEntries merge value

/-- Makes a key of a mapping a text if it is the value key. -/
def settleKey (key : Nat) : Evaluate Unit :=
  change key fun node => if node.tag = .value then { node with tag := .str } else node

/-- **Merges into a mapping what its merge keys say.** -/
def merge : Nat → Nat → Evaluate Unit
  | 0, _ => throw (.fault .tooDeep)
  | limit + 1, place => do
    let own ← entries place
    let e ← get
    let mergeKeys := own.filter fun entry => e.tag entry.1 = .merge
    let brought ← mergeKeys.mapM fun _ => broughtIn (merge limit) place
    let own ← entries place
    own.forM fun entry => settleKey entry.1
    change place fun node => { node with content := .mapping (brought.flatten ++ own) }

end Evaluation
end Gamebook.Yaml

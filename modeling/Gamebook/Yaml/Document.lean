/-
# Documents

From nodes to parts.  A scalar becomes an atom where it is met.  A collection is visited later:
its members are met in order, and collections among them wait until all those are visited that
were met before.  So of several things that no document can hold, the first one of this order is
what the document fails with.

`decoder` puts everything together: it is how the files of a story are read.
-/
import Gamebook.Yaml.Evaluation
import Gamebook.Yaml.Grammar
import Gamebook.Yaml.Layout
import Gamebook.Yaml.Members

namespace Gamebook.Yaml
namespace Evaluation

/-! ## 1. Meeting nodes -/

/-- The evaluation at its start: no node has a part. -/
def ofNodes (nodes : Array Node) : Evaluation := ⟨nodes, nodes.map fun _ => none, []⟩

/-- The part of a node, as far as it is known. -/
def part? (e : Evaluation) (place : Nat) : Option Part := (e.parts[place]?).join

/-- Notes what a node stands for. -/
def note (place : Nat) (part : Part) : Evaluate Unit :=
  modify fun e => { e with parts := e.parts.setIfInBounds place (some part) }

/-- Adds a part that no node stands for. -/
def add (part : Part) : Evaluate Nat :=
  modifyGet fun e => (e.parts.size, { e with parts := e.parts.push (some part) })

/-- Meets a node: a scalar becomes an atom, a collection is visited later. -/
def meet (place : Nat) : Evaluate Unit := do
  let e ← get
  if (e.part? place).isSome then return
  if (e.tag place).isCollection then
    note place (.list [])
    modify fun e => { e with waiting := place :: e.waiting }
  else note place (.atom (← atom place))

/-- Meets a key of a mapping, which must be an atom. -/
def key (place : Nat) : Evaluate Atom := do
  meet place
  match (← get).part? place with
  | some (.atom a) => return a
  | _ => throw .unreadable

/-- Whether the scalar at a place is the name of the value that is no number. -/
def namesNaN (e : Evaluation) (place : Nat) : Bool :=
  match (scalarText chainLimit place).run' e with
  | .ok text => Scalar.isNaNWord text.toChars
  | .error _ => false

/-- Whether two keys, given with their places, are one.  NaN is one key wherever it is called by
its name, but as the result of a numeral it is one with itself only. -/
def sameKey (e : Evaluation) (a b : Nat × Atom) : Bool :=
  a.2.same b.2
    || (a.2.isNaN && b.2.isNaN && (a.1 == b.1 || (e.namesNaN a.1 && e.namesNaN b.1)))

/-- Writes an entry behind others, or its value over that of the entry whose key it has. -/
def writeOver {κ : Type} (same : κ → κ → Bool) (written : List (κ × Nat)) (entry : κ × Nat) :
    List (κ × Nat) :=
  if written.any fun other => same other.1 entry.1 then
    written.map fun other => if same other.1 entry.1 then (other.1, entry.2) else other
  else written ++ [entry]

/-- Meets the entries of a mapping, with what is merged into it. -/
def fields (place : Nat) : Evaluate (Fields Nat) := do
  let _ ← entries place
  merge chainLimit place
  let met ← (← entries place).mapM fun entry => do
    let name ← key entry.1
    meet entry.2
    return ((entry.1, name), entry.2)
  let written := met.foldl (writeOver (sameKey (← get))) []
  return written.map fun entry => (entry.1.2, entry.2)

/-- The items of a sequence; anything else has none. -/
def items (place : Nat) : Evaluate (List Nat) := do
  match ((← get).node place).content with
  | .sequence items => return items
  | _ => throw .unreadable

/-- Meets an item of a list of pairs: a mapping with one entry. -/
def pair (place : Nat) : Evaluate Nat := do
  match ← entries place with
  | [(first, second)] =>
    meet first
    meet second
    add (.pair first second)
  | _ => throw .unreadable

/-! ## 2. Visiting collections -/

/-- Visits a collection, which must fit its tag. -/
def visit (place : Nat) : Evaluate Unit := do
  match (← get).tag place with
  | .seq =>
    let items ← items place
    items.forM meet
    note place (.list items)
  | .omap | .pairs => note place (.list (← (← items place).mapM pair))
  | .map => note place (.map (← fields place))
  | .set => note place (.set (Members.arranged ((← fields place).map Prod.fst)))
  | _ => throw .unreadable

/-- Visits the collections that wait, then those that were met on the way, and so on. -/
def visitAll : Nat → Evaluate Unit
  | 0 => pure ()
  | rounds + 1 => do
    let places := (← get).waiting.reverse
    if !places.isEmpty then
      modify fun e => { e with waiting := [] }
      places.forM visit
      visitAll rounds

/-- Makes a part of the node that is the whole document, and of all that belongs to it. -/
def complete (root : Nat) : Evaluate Unit := do
  meet root
  visitAll ((← get).nodes.size + 1)

end Evaluation

/-! ## 3. Texts -/

/-- The document of a graph of nodes. -/
def Place.ofGraph? (graph : Graph) : Reading Place := do
  let (_, done) ← (Evaluation.complete graph.root).run (.ofNodes graph.nodes)
  return ⟨done.parts.map (·.getD default), graph.root⟩

/-- **Reads a YAML text**, which holds at most one document; without one it is null. -/
def read (script : Script) : Reading Place := do
  match ← Graph.ofTokens? (Token.ofScript script) with
  | none => return .ofAtom .null
  | some graph => Place.ofGraph? graph

/-- **Decodes the content of a file.** -/
def decoder : Decoder Bytes Place := fun content => read (.ofBytes content)

end Gamebook.Yaml

/-
# The assembly of a document

What is known while the nodes of a document are built from its tokens, and the steps that all
building consists of.  A node gets its place when it begins, and its anchor stands for it from
there on.
-/
import Gamebook.Yaml.Node
import Gamebook.Yaml.Token

namespace Gamebook.Yaml

/-! ## 1. What is known so far -/

/-- A document that is partly built. -/
structure Assembly where
  tokens : List Token
  nodes : Array Node := #[]
  /-- The places of the nodes that anchors stand for. -/
  anchors : List (String × Nat) := []
  /-- What the handles of tags stand for. -/
  handles : List (String × String) := []

/-- A step of building: it takes tokens off the front. -/
abbrev Assemble := StateT Assembly Reading

namespace Assemble

/-- How deeply nodes may be nested.  The bound is what is left of the call stack, as in
`Json.depthLimit`; every layer takes two places on it. -/
def depthLimit : Nat := 490

/-- The handles that every document knows. -/
def commonHandles : List (String × String) := [("!", "!"), ("!!", Tag.common)]

/-- The next token.  A broken one ends the document. -/
def peek : Assemble (Option Token) := do
  match (← get).tokens with
  | [] => return none
  | .broken error :: _ => throw error
  | token :: _ => return some token

/-- Goes past the next token. -/
def skip : Assemble Unit := modify fun a => { a with tokens := a.tokens.drop 1 }

/-- Goes past the next token, which must be one of a kind. -/
def expect (kind : Token → Bool) : Assemble Unit := do
  if (← peek).any kind then skip else throw .unreadable

/-- Begins a node.  An anchor may be bound once only. -/
def begin? (anchor : Option String) (node : Node) : Assemble Nat := do
  let bound := (← get).anchors
  if anchor.any fun name => (bound.lookup name).isSome then throw .unreadable
  modifyGet fun a =>
    let place := a.nodes.size
    let anchors := match anchor with
      | some name => (name, place) :: a.anchors
      | none => a.anchors
    (place, { a with nodes := a.nodes.push node, anchors })

/-- Completes a node that was begun. -/
def complete (place : Nat) (content : Content) : Assemble Unit :=
  modify fun a => { a with nodes := a.nodes.modify place fun node => { node with content } }

/-- The node of a missing content. -/
def missing : Assemble Nat := begin? none default

/-- The node of an alias. -/
def resolve (name : String) : Assemble Nat := do
  match (← get).anchors.lookup name with
  | some place => return place
  | none => throw .unreadable

/-- The full name of a tag. -/
def fullName (handle : Option String) (suffix : String) : Assemble String := do
  match handle with
  | none => return suffix
  | some handle => match (← get).handles.lookup handle with
    | some start => return start ++ suffix
    | none => throw .unreadable

end Assemble

/-! ## 2. Anchors and tags in front of a node -/

/-- What stands in front of a node. -/
structure Properties where
  anchor : Option String := none
  /-- The full name of the tag. -/
  tag : Option String := none

namespace Properties

/-- Whether nothing stands there. -/
def isEmpty (p : Properties) : Bool := p.anchor.isNone && p.tag.isNone

/-- The tag of a collection. -/
def collectionTag (p : Properties) (default : Tag) : Tag :=
  match p.tag with
  | none | some "!" => default
  | some name => .ofName name

/-- The tag of a scalar.  Without a tag a plain scalar is judged by its spelling, and with the
tag `!` any scalar is. -/
def scalarTag (p : Properties) (text : Text) (plain : Bool) : Tag :=
  match p.tag with
  | none => if plain then .ofSpelling text else .str
  | some "!" => .ofSpelling text
  | some name => .ofName name

end Properties

namespace Assemble

/-- Reads an anchor, if one stands here. -/
def anchor? : Assemble (Option String) := do
  match ← peek with
  | some (.anchor name) => skip; return some name
  | _ => return none

/-- Reads a tag, if one stands here. -/
def tag? : Assemble (Option (Option String × String)) := do
  match ← peek with
  | some (.tag handle suffix) => skip; return some (handle, suffix)
  | _ => return none

/-- Reads an anchor and a tag, in any order. -/
def properties : Assemble Properties := do
  let before ← anchor?
  let tag ← tag?
  let anchor ← if before.isNone && tag.isSome then anchor? else pure before
  let name ← match tag with
    | some (handle, suffix) => some <$> fullName handle suffix
    | none => pure none
  return ⟨anchor, name⟩

end Assemble
end Gamebook.Yaml

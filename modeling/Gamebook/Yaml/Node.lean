/-
# Nodes

A YAML document consists of scalars, sequences and mappings, each with a tag.  An alias makes one
node part of several others, or even of itself; so the nodes of a document are kept in a row, and
refer to each other by their places in it.
-/
import Gamebook.Text.Basic
import Gamebook.Yaml.Tag

namespace Gamebook.Yaml

/-- What a node consists of; other nodes are given by their places. -/
inductive Content where
  | scalar (text : Text)
  | sequence (items : List Nat)
  | mapping (entries : List (Nat × Nat))

/-- A node of a document. -/
structure Node where
  tag : Tag
  content : Content

instance : Inhabited Node := ⟨.null, .scalar []⟩

/-- The nodes of a document. -/
structure Graph where
  nodes : Array Node
  /-- The place of the node that is the whole document. -/
  root : Nat

end Gamebook.Yaml

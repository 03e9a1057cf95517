/-
# Reading documents layer by layer

A reader of documents needs little of them: what a part is at its outermost layer, and how a
message shows it.  `Layered` is that much, and it is all that the readers of stories and
configurations use.  A `Datum` is layered; so is a document whose parts are shared or hold each
other.
-/
import Gamebook.Datum.Printer

namespace Gamebook

/-- The outermost layer of a part of a document. -/
inductive Layer (δ : Type) where
  | atom (a : Atom)
  | list (items : List δ)
  | map (fields : Fields δ)
  /-- A part of some other kind. -/
  | other

/-- What can be read like a decoded document. -/
class Layered (δ : Type) where
  /-- The outermost layer. -/
  layer : δ → Layer δ
  /-- How messages show it. -/
  shown : δ → Except Fault String

instance : Layered Datum where
  layer
    | .atom a => .atom a
    | .list items => .list items
    | .map fields => .map fields
  shown := Datum.shown

namespace Layered

variable {δ : Type} [Layered δ]

/-- A part as the content of a field. -/
def content (d : δ) : Except Fault Text :=
  match layer d with
  | .atom a => a.content
  | _ => (shown d).map Text.ofString

end Layered
end Gamebook

/-
# Parts of a document

What the nodes of a document stand for.  Parts are kept in a row and refer to each other by
their places, because a part may belong to several others, or to itself.  `Place` is a part as it
is seen from outside: with the row that it stands in.

A part that holds itself is shown in full once; inside of that, dots stand for it.
-/
import Gamebook.Datum.Layer

namespace Gamebook.Yaml

/-- A part of a document; other parts are given by their places. -/
inductive Part where
  | atom (a : Atom)
  | list (items : List Nat)
  | pair (first second : Nat)
  | set (members : List Atom)
  | map (fields : Fields Nat)

instance : Inhabited Part := ⟨.atom .null⟩

namespace Part

/-- Two things in parentheses, from their texts. -/
def shownPair (first second : String) : String := "(" ++ first ++ ", " ++ second ++ ")"

/-- What stands for a part inside of itself. -/
def shownAgain : Part → String
  | .list _ => shownList ["..."]
  | .pair .. => "(...)"
  | _ => shownBraces ["..."]

/-- A part as messages show it, down to some depth.  The places `around` are those of the parts
around it. -/
def shownWithin (parts : Array Part) : Nat → List Nat → Nat → Except Fault String
  | 0, _, _ => .error .tooDeep
  | depth + 1, around, place =>
    let part := parts.getD place default
    let inner := shownWithin parts depth (place :: around)
    match part with
    | .atom a => a.shown
    | .set [] => .ok "set()"
    | .set members => (members.mapM Atom.shown).map shownBraces
    | .list items =>
      if around.contains place then .ok part.shownAgain else (items.mapM inner).map shownList
    | .pair first second =>
      if around.contains place then .ok part.shownAgain
      else do return shownPair (← inner first) (← inner second)
    | .map fields =>
      if around.contains place then .ok part.shownAgain
      else
        (fields.mapM fun (entry : Atom × Nat) => do
          let name ← entry.1.shown
          return name ++ ": " ++ (← inner entry.2)).map shownBraces

end Part

/-- A part of a document with all parts of the document. -/
structure Place where
  parts : Array Part
  index : Nat

namespace Place

/-- The part at a place. -/
def part (p : Place) : Part := p.parts.getD p.index default

/-- The document that is nothing but an atom. -/
def ofAtom (a : Atom) : Place := ⟨#[.atom a], 0⟩

/-- Another place in the same document. -/
def toIndex (p : Place) (index : Nat) : Place := { p with index }

instance : Layered Place where
  layer p := match p.part with
    | .atom a => .atom a
    | .list items => .list (items.map p.toIndex)
    | .map fields => .map (fields.map fun entry => (entry.1, p.toIndex entry.2))
    | .pair .. | .set _ => .other
  shown p := Part.shownWithin p.parts shownLimit [] p.index

end Place
end Gamebook.Yaml

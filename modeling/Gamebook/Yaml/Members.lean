/-
# The order of a set

A set keeps its members in the cells of a table, and shows them cell by cell.  The number of
cells is a power of two.  A number has a code, by which equal numbers are alike; its lowest bits
are the cell that the number asks for, and if that is taken, it asks for others.

What cells other members ask for is not settled.  A set that has such members shows all of them
in the order in which they are written.
-/
import Gamebook.Datum.Basic

namespace Gamebook.Yaml.Members

/-! ## 1. Codes -/

/-- Codes are remainders of this prime number. -/
def modulus : Nat := Nat.pow 2 61 - 1

/-- How many words there are: a negative code is counted back from there. -/
def wordLimit : Nat := Nat.pow 2 64

/-- The code of infinity. -/
def infiniteCode : Nat := 314159

/-- A code with its sign as a word.  Minus one is taken for minus two. -/
def signedCode (negative : Bool) (code : Nat) : Nat :=
  if !negative || code = 0 then code
  else wordLimit - (if code = 1 then 2 else code)

/-- The code of a number, unless it is NaN: its remainder, where a unit of `2 ^ -1074` leaves
`2 ^ 24`, because `2 ^ 1098` leaves one. -/
def code? (n : Number) : Option Nat :=
  match n.position with
  | some (.at units) => some (signedCode (units < 0) (units.natAbs * Nat.pow 2 24 % modulus))
  | some .above => some (signedCode false infiniteCode)
  | some .below => some (signedCode true infiniteCode)
  | none => none

/-! ## 2. Cells -/

/-- The cells of a table, with the members that were placed. -/
abbrev Cells := Array (Option Atom)

/-- How many cells are enough for some members: more than twice as many, and at least eight; up
to four members do with eight. -/
def cellCount (members : Nat) : Nat :=
  if members ≤ 4 then 8 else Nat.pow 2 (Nat.log2 (2 * members) + 1)

/-- The cells that are asked for together: one, or ten in a row where there are as many. -/
def row (cells : Cells) (first : Nat) : List Nat :=
  if first + 9 < cells.size then List.range' first 10 else [first]

/-- Whether a cell is free. -/
def isFree (cells : Cells) (cell : Nat) : Bool := (cells.getD cell none).isNone

/-- Places a member, starting at a cell; `bits` are the bits of its code that are still to be
used up. -/
def placeFrom (member : Atom) (cells : Cells) : Nat → (first bits : Nat) → Cells
  | 0, _, _ => cells
  | fuel + 1, first, bits =>
    match (row cells first).find? (isFree cells) with
    | some cell => cells.setIfInBounds cell (some member)
    | none =>
      let bits := bits / 32
      placeFrom member cells fuel ((5 * first + 1 + bits) % cells.size) bits

/-- Places a member with its code.  After thirteen tries the code is used up, and then all cells
have their turn. -/
def place (cells : Cells) (member : Atom × Nat) : Cells :=
  placeFrom member.1 cells (cells.size + 13) (member.2 % cells.size) member.2

/-- A member with its code, if it is a number. -/
def coded? (member : Atom) : Option (Atom × Nat) := do
  return (member, ← code? (← member.keyNumber?))

/-- **The members of a set in the order in which they are shown.** -/
def arranged (members : List Atom) : List Atom :=
  match members.mapM coded? with
  | none => members
  | some coded =>
    let cells := coded.foldl place (Array.replicate (cellCount members.length) none)
    cells.toList.filterMap id

end Gamebook.Yaml.Members

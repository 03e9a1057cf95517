/-
# Block scalars

A block scalar is a piece of text that is set off by its indentation, behind `|` or `>`.  Behind
`|` its line breaks stay; behind `>` a line break between two lines that begin with no blank is
folded as in plain scalars.  A `+` keeps the line breaks at its end, a `-` drops them all, and
otherwise one is left; a digit tells how much deeper than what is around it the text stands.
-/
import Gamebook.Yaml.Cursor

namespace Gamebook.Yaml

/-- What becomes of the line breaks at the end of a block scalar. -/
inductive Chomping where
  | drop
  | one
  | keep
deriving DecidableEq

/-- What stands behind the mark of a block scalar. -/
structure BlockHeader where
  chomping : Chomping := .one
  increment : Option Nat := none

/-- Reads a sign that tells about the end. -/
def readChomping (header : BlockHeader) (c : Cursor) : Reading (BlockHeader × Cursor) := do
  let char ← c.peek
  if char = '+' then return ({ header with chomping := .keep }, ← c.next)
  else if char = '-' then return ({ header with chomping := .drop }, ← c.next)
  else return (header, c)

/-- Reads a digit that tells about the indentation; zero is none. -/
def readIncrement (header : BlockHeader) (c : Cursor) : Reading (BlockHeader × Cursor) := do
  let char ← c.peek
  if char = '0' then throw .unreadable
  else if char.isDigit then
    return ({ header with increment := some (char.toNat - '0'.toNat) }, ← c.next)
  else return (header, c)

/-- Reads a sign and a digit, in any order, and the rest of the line. -/
def readHeader (c : Cursor) : Reading (BlockHeader × Cursor) := do
  let char ← c.peek
  let (header, c) ←
    if char = '+' ∨ char = '-' then do
      let (header, c) ← readChomping {} c
      readIncrement header c
    else do
      let (header, c) ← readIncrement {} c
      if header.increment.isSome then readChomping header c else pure (header, c)
  if !isSpaceOrEnd (← c.peek) then throw .unreadable
  return (header, ← c.closeLine)

/-- Goes past line breaks and spaces in front of the text: the line breaks, and the deepest
column that the spaces reach. -/
def leadingBreaks (deepest : Nat) : Nat → Cursor → Reading (List Char × Nat × Cursor)
  | 0, c => .ok ([], deepest, c)
  | fuel + 1, c => do
    if (← c.peek) = ' ' then
      let c ← c.next
      leadingBreaks (max deepest c.column) fuel c
    else match ← c.lineBreak? with
      | none => return ([], deepest, c)
      | some (read, c) =>
        let (more, deepest, c) ← leadingBreaks deepest fuel c
        return (read :: more, deepest, c)

/-- Goes past line breaks and at most `indent` spaces in front of each line: the line breaks. -/
def innerBreaks (indent : Nat) : Nat → Cursor → Reading (List Char × Cursor)
  | 0, c => .ok ([], c)
  | fuel + 1, c => do
    if (← c.peek) = ' ' ∧ c.column < indent then innerBreaks indent fuel (← c.next)
    else match ← c.lineBreak? with
      | none => return ([], c)
      | some (read, c) =>
        let (more, c) ← innerBreaks indent fuel c
        return (read :: more, c)

/-- What a line break inside the text counts as, in front of further line breaks. -/
def innerBreak (folding : Bool) (read : Char) (more : List Char) : List Char :=
  if folding && read == '\n' then (if more.isEmpty then [' '] else []) else [read]

/-- Whether a line of the text begins at a cursor. -/
def startsLine (indent : Nat) (c : Cursor) : Reading Bool :=
  if c.column == indent then (· != finis) <$> c.peek else .ok false

/-- Reads the lines of a block scalar, each behind the line breaks before it. -/
def blockLines (folding : Bool) (chomping : Chomping) (indent : Nat) :
    Nat → List Char → Cursor → Reading (List Char × Cursor)
  | 0, _, c => .ok ([], c)
  | fuel + 1, before, c => do
    let flush := !isSpaceOrTab (← c.peek)
    let (line, c) ← c.span (!isLineEnd ·)
    let (ending, c) ← match ← c.lineBreak? with
      | some (read, c) => pure ([read], c)
      | none => pure ([], c)
    let (breaks, c) ← innerBreaks indent (c.size + 1) c
    if ← startsLine indent c then
      let deeper := isSpaceOrTab (← c.peek)
      let joint := ending.flatMap fun read => innerBreak (folding && flush && !deeper) read breaks
      let (more, c) ← blockLines folding chomping indent fuel breaks c
      return (before ++ line ++ joint ++ more, c)
    else
      let tail := match chomping with
        | .drop => []
        | .one => ending
        | .keep => ending ++ breaks
      return (before ++ line ++ tail, c)

/-- Reads a block scalar inside something that is indented by `outer`; the next character is
its mark. -/
def readBlock (outer : Int) (c : Cursor) : Reading (List Char × Cursor) := do
  let folding := (← c.peek) == '>'
  let (header, c) ← readHeader (← c.next)
  let least := max (outer + 1).toNat 1
  let (breaks, indent, c) ← match header.increment with
    | none => do
      let (breaks, deepest, c) ← leadingBreaks 0 (c.size + 1) c
      pure (breaks, max least deepest, c)
    | some increment => do
      let indent := least + increment - 1
      let (breaks, c) ← innerBreaks indent (c.size + 1) c
      pure (breaks, indent, c)
  if ← startsLine indent c then
    blockLines folding header.chomping indent (c.size + 1) breaks c
  else
    return (if header.chomping = .keep then breaks else [], c)

end Gamebook.Yaml

/-
# Cursors

A YAML text is read from front to back by a cursor: the characters that are left, with the line
and the column that the next one stands in.  Line breaks, blanks and the end of the text decide
most questions, so the classes of characters are defined here too; the end of the text counts
as the character `finis`, which no YAML text contains.

Whoever looks behind the last character of a script that is cut off meets its wall: looking is
therefore a `Reading`.  A cursor that goes on looks at the character that it comes to.
-/
import Gamebook.Yaml.Script

namespace Gamebook.Yaml

/-! ## 1. Classes of characters -/

/-- What a reader sees at the end of the text. -/
def finis : Char := '\x00'

/-- Whether a character ends a line. -/
def isBreak (c : Char) : Bool :=
  c == '\n' || c == '\u0085' || c == '\u2028' || c == '\u2029'

/-- A line break or the end of the text. -/
def isLineEnd (c : Char) : Bool := c == finis || isBreak c

/-- A space, a line break or the end of the text. -/
def isSpaceOrEnd (c : Char) : Bool := c == ' ' || isLineEnd c

/-- A space, a tab, a line break or the end of the text. -/
def isGap (c : Char) : Bool := c == '\t' || isSpaceOrEnd c

/-- A space or a tab. -/
def isSpaceOrTab (c : Char) : Bool := c == ' ' || c == '\t'

/-- Whether a character may stand in the name of an anchor or a directive. -/
def isWordChar (c : Char) : Bool := c.isAlphanum || c == '-' || c == '_'

/-- The value of a digit in base 16. -/
def hexValue? (c : Char) : Option Nat :=
  if '0' ≤ c ∧ c ≤ '9' then some (c.toNat - '0'.toNat)
  else if 'a' ≤ c ∧ c ≤ 'f' then some (c.toNat - 'a'.toNat + 10)
  else if 'A' ≤ c ∧ c ≤ 'F' then some (c.toNat - 'A'.toNat + 10)
  else none

/-! ## 2. Cursors -/

/-- What comes of reading: mostly a result with the cursor behind it. -/
abbrev Reading := Except DecodeError

/-- The characters that are left, and where the first of them stands. -/
structure Cursor where
  rest : List Char
  /-- What is met behind the last character; nothing at the end of the text. -/
  wall : Option DecodeError := none
  /-- How many characters there were at the start: no reading takes more steps. -/
  size : Nat
  /-- How many characters were read. -/
  index : Nat := 0
  line : Nat := 0
  column : Nat := 0

namespace Cursor

/-- A cursor at the start of a script. -/
def ofScript (script : Script) : Cursor :=
  { rest := script.chars, wall := script.wall, size := script.chars.length }

/-- What is seen behind the last character. -/
def behind (c : Cursor) : Reading Char :=
  match c.wall with
  | none => .ok finis
  | some error => .error error

/-- The next character. -/
def peek (c : Cursor) : Reading Char :=
  match c.rest with
  | char :: _ => .ok char
  | [] => c.behind

/-- The character after `n` others. -/
def peekAt (c : Cursor) (n : Nat) : Reading Char :=
  match c.rest[n]? with
  | some char => .ok char
  | none => c.behind

/-- Goes past one character.  A byte order mark takes no column. -/
def past (c : Cursor) (char : Char) (rest : List Char) : Cursor :=
  if isBreak char then { c with rest, index := c.index + 1, line := c.line + 1, column := 0 }
  else
    { c with
      rest
      index := c.index + 1
      column := if char = '\uFEFF' then c.column else c.column + 1 }

/-- Goes past the next `n` characters, without a look at what follows. -/
def advance : Nat → Cursor → Cursor
  | 0, c => c
  | n + 1, c =>
    match c.rest with
    | [] => c
    | char :: rest => advance n (c.past char rest)

/-- Goes past the next `n` characters. -/
def skip (n : Nat) (c : Cursor) : Reading Cursor := do
  let after := advance n c
  let _ ← after.peek
  return after

/-- Goes past the next character. -/
def next (c : Cursor) : Reading Cursor := c.skip 1

/-- Goes past the characters `cs` that satisfy `p`, up to the first that does not. -/
def spanFrom (p : Char → Bool) : List Char → Cursor → Reading (List Char × Cursor)
  | [], c => do
    let _ ← c.behind
    return ([], c)
  | char :: rest, c =>
    if p char then do
      let (read, c) ← spanFrom p rest (c.past char rest)
      return (char :: read, c)
    else .ok ([], c)

/-- The longest run of characters that satisfy `p`, and the cursor behind it. -/
def span (p : Char → Bool) (c : Cursor) : Reading (List Char × Cursor) := spanFrom p c.rest c

/-- Goes past the longest run of characters that satisfy `p`. -/
def dropWhile (p : Char → Bool) (c : Cursor) : Reading Cursor := (c.span p).map Prod.snd

/-- Goes past spaces. -/
def skipSpaces (c : Cursor) : Reading Cursor := c.dropWhile (· == ' ')

/-- Goes past spaces, and past a comment behind them. -/
def skipComment (c : Cursor) : Reading Cursor := do
  let c ← c.skipSpaces
  if (← c.peek) = '#' then c.dropWhile (!isLineEnd ·) else return c

/-- Reads a line break, if the next character is one.  All but the two Unicode separators count
as a line feed. -/
def lineBreak? (c : Cursor) : Reading (Option (Char × Cursor)) := do
  let char ← c.peek
  if isBreak char then
    return some (if char = '\u0085' then '\n' else char, ← c.next)
  else return none

/-- Whether `---` or `...` stands here, with a gap behind it. -/
def atSeparator (c : Cursor) : Reading Bool := do
  let _ ← c.peekAt 2
  if ['-', '-', '-'].isPrefixOf c.rest || ['.', '.', '.'].isPrefixOf c.rest then
    return isGap (← c.peekAt 3)
  else return false

/-- Goes past the rest of a line on which nothing but a comment may follow. -/
def closeLine (c : Cursor) : Reading Cursor := do
  let c ← c.skipComment
  if !isLineEnd (← c.peek) then throw .unreadable
  match ← c.lineBreak? with
  | some (_, c) => return c
  | none => return c

end Cursor
end Gamebook.Yaml

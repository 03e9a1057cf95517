/-
# Plain scalars

A plain scalar is text without quotes.  It ends before a comment, before a colon with a gap
behind it, and inside brackets also before the characters that brackets use.  It may go on over
lines that are indented deeper than what is around it: a single line break then counts as a
space, and of several the first does not count.
-/
import Gamebook.Yaml.Cursor

namespace Gamebook.Yaml

/-- The characters that end a plain scalar inside brackets. -/
def isFlowMark (c : Char) : Bool :=
  c == ',' || c == '?' || c == '[' || c == ']' || c == '\x7b' || c == '\x7d'

/-- Whether a colon ends a plain scalar in front of the character `after`. -/
def endsKey (inFlow : Bool) (after : Char) : Bool :=
  isGap after || (inFlow && after != '?' && isFlowMark after)

/-- The characters that have a meaning of their own at the start of a token. -/
def isMark (c : Char) : Bool := "-?:,[]\x7b\x7d#&*!|>'\"%@`".toList.contains c

/-- Whether a plain scalar begins at a cursor.  Some marks may begin one, too, if no gap follows
them. -/
def startsPlain (inFlow : Bool) (c : Cursor) : Reading Bool := do
  let char ← c.peek
  if isGap char || isMark char then
    let after ← c.peekAt 1
    return !isGap after && (char == '-' || (!inFlow && (char == '?' || char == ':')))
  else return true

/-- The next run of characters of a plain scalar. -/
def plainRun (inFlow : Bool) : List Char → Cursor → Reading (List Char × Cursor)
  | [], c => do
    let _ ← c.behind
    return ([], c)
  | char :: rest, c => do
    let ends ←
      if char = ':' then (endsKey inFlow) <$> c.peekAt 1
      else pure (isGap char || (inFlow && isFlowMark char))
    if ends then return ([], c)
    else
      let (read, c) ← plainRun inFlow rest (c.past char rest)
      return (char :: read, c)

/-- What stands between two runs. -/
structure PlainGap where
  /-- What it contributes to the text; nothing if the scalar ends here. -/
  text : List Char
  /-- Whether it holds a line break. -/
  broken : Bool
  cursor : Cursor

/-- The line breaks after the first one.  A separator of documents ends the scalar, and then
they do not count. -/
def plainBreaks : Nat → Cursor → Reading (Option (List Char) × Cursor)
  | 0, c => .ok (some [], c)
  | fuel + 1, c => do
    if (← c.peek) = ' ' then plainBreaks fuel (← c.next)
    else match ← c.lineBreak? with
      | none => return (some [], c)
      | some (read, c) =>
        if ← c.atSeparator then return (none, c)
        else
          let (more, c) ← plainBreaks fuel c
          return (more.map (read :: ·), c)

/-- What line breaks count as: the first, if it is a line feed, only as a space, and not even
that if there are more. -/
def folded (first : Char) (more : List Char) : List Char :=
  if first ≠ '\n' then first :: more
  else if more.isEmpty then [' ']
  else more

/-- Goes past what stands behind a run. -/
def plainGap (c : Cursor) : Reading PlainGap := do
  let (spaces, c) ← c.span (· == ' ')
  match ← c.lineBreak? with
  | none => return ⟨spaces, false, c⟩
  | some (first, c) =>
    if ← c.atSeparator then return ⟨[], true, c⟩
    else match ← plainBreaks (c.size + 1) c with
      | (none, c) => return ⟨[], true, c⟩
      | (some more, c) => return ⟨folded first more, true, c⟩

/-- A plain scalar that was read. -/
structure PlainScalar where
  text : List Char
  /-- Whether the cursor stands at the start of a line. -/
  broken : Bool
  cursor : Cursor

/-- Reads runs of a plain scalar, each behind the gap before it. -/
def plainRuns (inFlow : Bool) (indent : Int) : Nat → PlainGap → Reading PlainScalar
  | 0, gap => .ok ⟨[], gap.broken, gap.cursor⟩
  | fuel + 1, gap => do
    if (← gap.cursor.peek) = '#' then return ⟨[], gap.broken, gap.cursor⟩
    let (run, c) ← plainRun inFlow gap.cursor.rest gap.cursor
    if run.isEmpty then return ⟨[], gap.broken, gap.cursor⟩
    let next ← plainGap c
    let text := gap.text ++ run
    if next.text.isEmpty || (!inFlow && (next.cursor.column : Int) < indent) then
      return ⟨text, next.broken, next.cursor⟩
    else
      let more ← plainRuns inFlow indent fuel next
      return { more with text := text ++ more.text }

/-- Reads a plain scalar; outside brackets its lines stand at column `indent` or further. -/
def readPlain (inFlow : Bool) (indent : Int) (c : Cursor) : Reading PlainScalar :=
  plainRuns inFlow indent (c.size + 1) ⟨[], false, c⟩

end Gamebook.Yaml

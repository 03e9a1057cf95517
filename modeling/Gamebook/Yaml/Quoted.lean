/-
# Quoted scalars

Text between single quotes stands for itself, except that a doubled quote is one quote.  Between
double quotes a backslash escapes: a letter by its name or code, or the end of a line.  In both,
blanks around a line break do not count, and line breaks fold as in plain scalars.
-/
import Gamebook.Text.Basic
import Gamebook.Yaml.Plain

namespace Gamebook.Yaml

/-! ## 1. Escapes -/

/-- The characters that are escaped by one letter. -/
def escapes : List (Char × Char) :=
  [('0', '\x00'), ('a', '\x07'), ('b', '\x08'), ('t', '\t'), ('\t', '\t'), ('n', '\n'),
   ('v', '\x0b'), ('f', '\x0c'), ('r', '\r'), ('e', '\x1b'), (' ', ' '), ('"', '"'),
   ('\\', '\\'), ('/', '/'), ('N', '\u0085'), ('_', '\u00a0'), ('L', '\u2028'), ('P', '\u2029')]

/-- How many digits follow a letter that announces a code. -/
def codeWidth? (c : Char) : Option Nat :=
  if c = 'x' then some 2 else if c = 'u' then some 4 else if c = 'U' then some 8 else none

/-- The number that the next `width` digits in base 16 denote, behind the digits of `value`. -/
def readCode (c : Cursor) (value : Nat) : Nat → Nat → Reading Nat
  | _, 0 => .ok value
  | place, width + 1 => do
    match hexValue? (← c.peekAt place) with
    | some digit => readCode c (16 * value + digit) (place + 1) width
    | none => throw .unreadable

/-- The letter of a code.  A code beyond the last letter stands for none, and one of 32 bits is
not even a code. -/
def letterOfCode (code : Nat) : Reading Letter :=
  if Nat.pow 2 31 ≤ code then .error (.fault .tooLarge)
  else match Letter.ofCode? code with
    | some letter => .ok letter
    | none => .error (.fault .noSuchCharacter)

/-- The line breaks from here on, with the blanks between them. -/
def quotedBreaks : Nat → Cursor → Reading (List Char × Cursor)
  | 0, c => .ok ([], c)
  | fuel + 1, c => do
    if ← c.atSeparator then throw .unreadable
    let c ← c.dropWhile isSpaceOrTab
    match ← c.lineBreak? with
    | none => return ([], c)
    | some (read, c) =>
      let (more, c) ← quotedBreaks fuel c
      return (read :: more, c)

/-- Reads what an escape stands for; the backslash was read. -/
def readEscape (c : Cursor) : Reading (Text × Cursor) := do
  let char ← c.peek
  match escapes.lookup char, codeWidth? char with
  | some meant, _ => return ([.char meant], ← c.next)
  | none, some width =>
    let c ← c.next
    let letter ← letterOfCode (← readCode c 0 0 width)
    return ([letter], ← c.skip width)
  | none, none =>
    match ← c.lineBreak? with
    | some (_, c) =>
      let (breaks, c) ← quotedBreaks (c.size + 1) c
      return (.ofChars breaks, c)
    | none => throw .unreadable

/-! ## 2. Scalars -/

/-- Whether a character has no meaning of its own between quotes. -/
def isOrdinary (c : Char) : Bool := !(isGap c || c == '\'' || c == '"' || c == '\\')

/-- Reads on to the next blank, line break or closing quote. -/
def quotedRun (double : Bool) : Nat → Cursor → Reading (Text × Cursor)
  | 0, c => .ok ([], c)
  | fuel + 1, c => do
    let (run, c) ← c.span isOrdinary
    let char ← c.peek
    let special ←
      if char = '\'' then
        if double then pure (some (([.char '\''] : Text), ← c.next))
        else if (← c.peekAt 1) = '\'' then pure (some ([.char '\''], ← c.skip 2))
        else pure none
      else if char = '"' ∧ !double then pure (some ([.char '"'], ← c.next))
      else if char = '\\' then
        if double then some <$> readEscape (← c.next)
        else pure (some ([.char '\\'], ← c.next))
      else pure none
    match special with
    | none => return (.ofChars run, c)
    | some (read, c) =>
      let (more, c) ← quotedRun double fuel c
      return (Text.ofChars run ++ read ++ more, c)

/-- Reads blanks and line breaks between two runs. -/
def quotedGap (c : Cursor) : Reading (List Char × Cursor) := do
  let (blanks, c) ← c.span isSpaceOrTab
  if (← c.peek) = finis then throw .unreadable
  match ← c.lineBreak? with
  | none => return (blanks, c)
  | some (first, c) =>
    let (more, c) ← quotedBreaks (c.size + 1) c
    return (folded first more, c)

/-- Reads gaps and runs up to the closing quote. -/
def quotedRuns (quote : Char) : Nat → Cursor → Reading (Text × Cursor)
  | 0, _ => .error .unreadable
  | fuel + 1, c => do
    if (← c.peek) = quote then return ([], ← c.next)
    else
      let (gap, c) ← quotedGap c
      let (run, c) ← quotedRun (quote == '"') (c.size + 1) c
      let (more, c) ← quotedRuns quote fuel c
      return (Text.ofChars gap ++ run ++ more, c)

/-- Reads a quoted scalar; the next character is its opening quote. -/
def readQuoted (c : Cursor) : Reading (Text × Cursor) := do
  let quote ← c.peek
  let c ← c.next
  let (first, c) ← quotedRun (quote == '"') (c.size + 1) c
  let (more, c) ← quotedRuns quote (c.size + 1) c
  return (first ++ more, c)

end Gamebook.Yaml

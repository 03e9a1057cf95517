/-
# Layout

`Token.ofScript` cuts a YAML text into tokens.  Two things are not seen in the characters
themselves.

* **Blocks.**  A block collection opens where its first entry stands deeper than what is around
  it, and closes before the first token that stands less deep.  Inside brackets indentation
  does not count.
* **Keys.**  A key shows only by the colon behind it.  Where a key may begin, its place among
  the tokens is kept, one for each level of brackets; when the colon comes, the tokens that
  announce the key are put in at that place.  A place is forgotten with the end of its line or
  after 1024 characters.

A token at which a key may still begin is not complete: if the text turns out to be broken
before that is settled, `Layout.released` tells which tokens stand in front of the breach.
-/
import Gamebook.Yaml.Block
import Gamebook.Yaml.Plain
import Gamebook.Yaml.Property
import Gamebook.Yaml.Quoted

namespace Gamebook.Yaml

/-- A place where a key may have begun. -/
structure KeyPlace where
  /-- How many brackets are open there. -/
  level : Nat
  /-- The number of tokens in front of it. -/
  token : Nat
  /-- Whether nothing but a key may stand there. -/
  required : Bool
  index : Nat
  line : Nat
  column : Nat

/-- Whether a place may still turn out to begin a key, as it looks from a cursor. -/
def KeyPlace.isFresh (c : Cursor) (key : KeyPlace) : Bool :=
  key.line == c.line && c.index ≤ key.index + 1024

/-- A text that is partly cut into tokens. -/
structure Layout where
  cursor : Cursor
  tokens : Array Token := #[]
  /-- The column of the innermost open block; before the first block, minus one. -/
  indent : Int := -1
  /-- The columns of the blocks around it, innermost first. -/
  outer : List Int := []
  /-- Whether a key may begin here. -/
  keyAllowed : Bool := true
  /-- How many brackets are open. -/
  level : Nat := 0
  /-- The places of possible keys, at most one for each level, innermost first. -/
  places : List KeyPlace := []

namespace Layout

/-- Whether brackets are open. -/
def inFlow (l : Layout) : Bool := l.level != 0

/-- Adds a token. -/
def push (l : Layout) (token : Token) : Layout := { l with tokens := l.tokens.push token }

/-! ## 1. Possible keys -/

/-- The place of the possible key on the current level, with the other places. -/
def place? (l : Layout) : Option (KeyPlace × List KeyPlace) :=
  match l.places with
  | [] => none
  | key :: others => if key.level = l.level then some (key, others) else none

/-- Forgets the possible key of the current level; one that is required is missed. -/
def dropPlace (l : Layout) : Reading Layout :=
  match l.place? with
  | none => .ok l
  | some (key, places) => if key.required then .error .unreadable else .ok { l with places }

/-- Notes that a key may begin here, where one is allowed. -/
def notePlace (l : Layout) : Reading Layout :=
  if l.keyAllowed then do
    let required := !l.inFlow && l.indent == (l.cursor.column : Int)
    let l ← l.dropPlace
    let c := l.cursor
    let key : KeyPlace := ⟨l.level, l.tokens.size, required, c.index, c.line, c.column⟩
    return { l with places := key :: l.places }
  else .ok l

/-- Forgets the possible keys that are too far away. -/
def dropStale (l : Layout) : Reading Layout :=
  let (fresh, stale) := l.places.partition (KeyPlace.isFresh l.cursor)
  if stale.any KeyPlace.required then .error .unreadable else .ok { l with places := fresh }

/-! ## 2. Blocks -/

/-- Closes the blocks that are deeper than a column. -/
def closeBlocks (column : Int) : List Int → Layout → Layout
  | [], l => l
  | indent :: outer, l =>
    if column < l.indent then closeBlocks column outer { l.push .blockEnd with indent, outer }
    else l

/-- Closes the blocks that are deeper than a column, unless brackets are open. -/
def unwind (l : Layout) (column : Int) : Layout :=
  if l.inFlow then l else closeBlocks column l.outer l

/-- Opens a block at a column that is deeper than the innermost block: its token is put in as
the `place`-th. -/
def openBlock (l : Layout) (column : Nat) (place : Nat) (token : Token) : Layout :=
  if l.indent < column then
    { l with
      tokens := l.tokens.insertIdxIfInBounds place token
      outer := l.indent :: l.outer
      indent := column }
  else l

/-! ## 3. Tokens -/

/-- Goes past spaces, comments and line breaks. -/
def skipGap (l : Layout) : Nat → Reading Layout
  | 0 => .ok l
  | fuel + 1 => do
    let c ← l.cursor.skipComment
    match ← c.lineBreak? with
    | none => return { l with cursor := c }
    | some (_, c) => skipGap { l with cursor := c, keyAllowed := l.keyAllowed || !l.inFlow } fuel

/-- A token of one character after which a key may begin or not. -/
def single (l : Layout) (token : Token) (keyAllowed : Bool) : Reading Layout := do
  return { l.push token with cursor := ← l.cursor.next, keyAllowed }

/-- A token that could be a key. -/
def possibleKey (l : Layout) (read : Cursor → Reading (Token × Cursor)) : Reading Layout := do
  let l ← l.notePlace
  let (token, cursor) ← read l.cursor
  return { l.push token with cursor, keyAllowed := false }

/-- A separator of documents, or a directive: all blocks end. -/
def atMargin (l : Layout) (read : Cursor → Reading (Token × Cursor)) : Reading Layout := do
  let l ← (l.unwind (-1)).dropPlace
  let (token, cursor) ← read l.cursor
  return { l.push token with cursor, keyAllowed := false }

/-- An opening bracket. -/
def openFlow (l : Layout) (token : Token) : Reading Layout := do
  let l ← (← l.notePlace).single token true
  return { l with level := l.level + 1 }

/-- A closing bracket.  One that closes nothing is left to those who read the tokens. -/
def closeFlow (l : Layout) (token : Token) : Reading Layout := do
  let l ← (← l.dropPlace).single token false
  return { l with level := l.level - 1 }

/-- A comma. -/
def comma (l : Layout) : Reading Layout := do
  (← l.dropPlace).single .comma true

/-- A dash in front of an entry; the first one opens a block. -/
def dash (l : Layout) : Reading Layout := do
  if !l.inFlow && !l.keyAllowed then throw .unreadable
  let l := if l.inFlow then l else l.openBlock l.cursor.column l.tokens.size .blockSequence
  (← l.dropPlace).single .dash true

/-- A question mark in front of a key. -/
def question (l : Layout) : Reading Layout := do
  if !l.inFlow && !l.keyAllowed then throw .unreadable
  let l := if l.inFlow then l else l.openBlock l.cursor.column l.tokens.size .blockMapping
  (← l.dropPlace).single .key (!l.inFlow)

/-- A colon: behind a possible key it makes it a key. -/
def colon (l : Layout) : Reading Layout := do
  match l.place? with
  | some (key, places) =>
    let l := { l with places, tokens := l.tokens.insertIdxIfInBounds key.token .key }
    let l := if l.inFlow then l else l.openBlock key.column key.token .blockMapping
    l.single .value false
  | none =>
    if !l.inFlow && !l.keyAllowed then throw .unreadable
    let l := if l.inFlow then l else l.openBlock l.cursor.column l.tokens.size .blockMapping
    (← l.dropPlace).single .value (!l.inFlow)

/-- A block scalar. -/
def block (l : Layout) : Reading Layout := do
  let l ← l.dropPlace
  let (text, cursor) ← readBlock l.indent l.cursor
  return { l.push (.scalar (.ofChars text) false) with cursor, keyAllowed := true }

/-- A quoted scalar. -/
def quoted (l : Layout) : Reading Layout :=
  l.possibleKey fun c => do
    let (text, c) ← readQuoted c
    return (.scalar text false, c)

/-- A plain scalar. -/
def plain (l : Layout) : Reading Layout := do
  let l ← l.notePlace
  let read ← readPlain l.inFlow (l.indent + 1) l.cursor
  return { l.push (.scalar (.ofChars read.text) true) with
    cursor := read.cursor, keyAllowed := read.broken }

/-- Whether a mark stands at a cursor that has its meaning only in front of a gap, or inside
brackets if `inFlow` says so. -/
def marks (inFlow : Bool) (c : Cursor) : Reading Bool :=
  if inFlow then .ok true else isGap <$> c.peekAt 1

/-- Whether documents are separated at a cursor, whose next character is given. -/
def separates (char : Char) (c : Cursor) : Reading Bool :=
  if (char = '-' ∨ char = '.') ∧ c.column = 0 then c.atSeparator else .ok false

/-- Reads a plain scalar, if one begins at the cursor. -/
def plainOrNothing (l : Layout) : Reading Layout := do
  if ← startsPlain l.inFlow l.cursor then l.plain else throw .unreadable

/-- Reads the token at the cursor, whose next character is given. -/
def token (l : Layout) (char : Char) : Reading Layout := do
  let c := l.cursor
  if char = '%' ∧ c.column = 0 then l.atMargin readDirective
  else if ← separates char c then
    l.atMargin fun c => do
      return (if char = '-' then .documentStart else .documentEnd, ← c.skip 3)
  else match char with
    | '[' => l.openFlow .openList
    | '\x7b' => l.openFlow .openMap
    | ']' => l.closeFlow .closeList
    | '\x7d' => l.closeFlow .closeMap
    | ',' => l.comma
    | '-' => if ← marks false c then l.dash else l.plainOrNothing
    | '?' => if ← marks l.inFlow c then l.question else l.plainOrNothing
    | ':' => if ← marks l.inFlow c then l.colon else l.plainOrNothing
    | '*' => l.possibleKey fun c => do
      let (name, c) ← readName c
      return (.alias name, c)
    | '&' => l.possibleKey fun c => do
      let (name, c) ← readName c
      return (.anchor name, c)
    | '!' => l.possibleKey readTag
    | '\'' | '"' => l.quoted
    | '|' | '>' => if l.inFlow then l.plainOrNothing else l.block
    | _ => l.plainOrNothing

/-- Ends the text: all blocks end, and no key may be missing. -/
def finish (l : Layout) : Reading Layout := (l.unwind (-1)).dropPlace

/-! ## 4. Tokens one after another -/

/-- Goes on to the next token and reads it; true at the end of the text. -/
def step (l : Layout) : Reading (Layout × Bool) := do
  let l ← (← l.skipGap (l.cursor.size + 1)).dropStale
  let l := l.unwind l.cursor.column
  let char ← l.cursor.peek
  if char = finis then return (← l.finish, true)
  else return (← (← l.token char).dropStale, false)

/-- The tokens in front of the first one at which a key may still begin. -/
def released (l : Layout) : List Token :=
  match (l.places.map KeyPlace.token).min? with
  | some first => l.tokens.toList.take first
  | none => l.tokens.toList

/-- Reads token after token.  What cannot be read leaves a broken token. -/
def run : Nat → Layout → List Token
  | 0, l => l.tokens.toList
  | fuel + 1, l =>
    match l.step with
    | .error error => l.released ++ [.broken error]
    | .ok (next, true) => next.tokens.toList
    | .ok (next, false) => run fuel next

end Layout

/-- **Cuts a script into tokens.**  A byte order mark at its start does not count. -/
def Token.ofScript (script : Script) : List Token :=
  let start := Cursor.ofScript script
  let start := if start.rest.head? = some '\uFEFF' then start.advance 1 else start
  Layout.run (start.size + 2) { cursor := start }

end Gamebook.Yaml

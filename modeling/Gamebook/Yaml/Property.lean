/-
# Anchors, tags and directives

The readers of the small pieces of a YAML text: the name of an anchor or alias, a tag, and a
directive.  In a tag a percent sign with two digits in base 16 stands for a byte.
-/
import Gamebook.Number.Literal
import Gamebook.Text.Utf8
import Gamebook.Yaml.Cursor
import Gamebook.Yaml.Token

namespace Gamebook.Yaml

/-! ## 1. Anchors -/

/-- Reads the name of an anchor or alias, behind the mark in front of it. -/
def readName (c : Cursor) : Reading (String × Cursor) := do
  let (name, c) ← (← c.next).span isWordChar
  if name.isEmpty then throw .unreadable
  let after ← c.peek
  if isGap after || "?:,]\x7d%@`".toList.contains after then return (String.ofList name, c)
  else throw .unreadable

/-! ## 2. Tags -/

/-- Whether a character may stand in a tag. -/
def isTagChar (c : Char) : Bool :=
  isWordChar c || ";/?:@&=+$,.!~*'()[]".toList.contains c

/-- Reads the bytes that percent signs stand for. -/
def readTagBytes : Nat → Cursor → Reading (Bytes × Cursor)
  | 0, c => .ok ([], c)
  | fuel + 1, c => do
    if (← c.peek) ≠ '%' then return ([], c)
    let c ← c.next
    match hexValue? (← c.peek) with
    | none => throw .unreadable
    | some high =>
      match hexValue? (← c.peekAt 1) with
      | none => throw .unreadable
      | some low =>
        let (more, c) ← readTagBytes fuel (← c.skip 2)
        return (UInt8.ofNat (16 * high + low) :: more, c)

/-- Reads the characters of a tag, with percent signs in their meaning. -/
def readTagText : Nat → Cursor → Reading (List Char × Cursor)
  | 0, c => .ok ([], c)
  | fuel + 1, c => do
    let (run, c) ← c.span isTagChar
    if (← c.peek) = '%' then
      let (bytes, c) ← readTagBytes (c.size + 1) c
      match Utf8.decode bytes with
      | .error _ => throw .unreadable
      | .ok read =>
        let (more, c) ← readTagText fuel c
        return (run ++ read ++ more, c)
    else return (run, c)

/-- Reads the text of a tag, which may not be missing. -/
def readTagSuffix (c : Cursor) : Reading (String × Cursor) := do
  let first ← c.peek
  if first = '%' || isTagChar first then
    let (text, c) ← readTagText (c.size + 1) c
    return (String.ofList text, c)
  else throw .unreadable

/-- Reads a handle: one exclamation mark, or a name between two. -/
def readHandle (c : Cursor) : Reading (String × Cursor) := do
  if (← c.peek) ≠ '!' then throw .unreadable
  if (← c.peekAt 1) = ' ' then return ("!", ← c.next)
  else
    let (name, c) ← (c.advance 1).span isWordChar
    if (← c.peek) = '!' then return (String.ofList ('!' :: name ++ ['!']), ← c.next)
    else throw .unreadable

/-- Whether a further exclamation mark stands in a tag, before the next space or line end. -/
def isNamed (c : Cursor) : Reading Bool := do
  let (_, c) ← (c.advance 1).span fun char => char != '!' && !isSpaceOrEnd char
  return (← c.peek) == '!'

/-- Reads a tag; the next character is its exclamation mark. -/
def readTag (c : Cursor) : Reading (Token × Cursor) := do
  let second ← c.peekAt 1
  let (token, c) ←
    if second = '<' then do
      let (suffix, c) ← readTagSuffix (← c.skip 2)
      if (← c.peek) ≠ '>' then throw .unreadable
      pure (Token.tag none suffix, ← c.next)
    else if isGap second then pure (Token.tag none "!", ← c.next)
    else do
      let (handle, c) ← if ← isNamed c then readHandle c else pure ("!", ← c.next)
      let (suffix, c) ← readTagSuffix c
      pure (Token.tag (some handle) suffix, c)
  if isSpaceOrEnd (← c.peek) then return (token, c) else throw .unreadable

/-! ## 3. Directives -/

/-- Reads a number of a version. -/
def readVersionNumber (c : Cursor) : Reading (Nat × Cursor) := do
  let (digits, c) ← c.span Char.isDigit
  if digits.isEmpty then throw .unreadable
  match Literal.integerOf false digits with
  | .ok n => return (n.toNat, c)
  | .error fault => throw (.fault fault)

/-- Reads a version. -/
def readVersion (c : Cursor) : Reading (Directive × Cursor) := do
  let (major, c) ← readVersionNumber (← c.skipSpaces)
  if (← c.peek) ≠ '.' then throw .unreadable
  let (_, c) ← readVersionNumber (← c.next)
  if isSpaceOrEnd (← c.peek) then return (.version major, c) else throw .unreadable

/-- Reads a handle and what it stands for. -/
def readHandleMeaning (c : Cursor) : Reading (Directive × Cursor) := do
  let (name, c) ← readHandle (← c.skipSpaces)
  if (← c.peek) ≠ ' ' then throw .unreadable
  let (meaning, c) ← readTagSuffix (← c.skipSpaces)
  if isSpaceOrEnd (← c.peek) then return (.handle name meaning, c) else throw .unreadable

/-- Reads a directive with its line; the next character is its percent sign. -/
def readDirective (c : Cursor) : Reading (Token × Cursor) := do
  let (name, c) ← (← c.next).span isWordChar
  if name.isEmpty || !isSpaceOrEnd (← c.peek) then throw .unreadable
  let (directive, c) ←
    if name = "YAML".toList then readVersion c
    else if name = "TAG".toList then readHandleMeaning c
    else pure (Directive.other, ← c.dropWhile (!isLineEnd ·))
  return (.directive directive, ← c.closeLine)

end Gamebook.Yaml

/-
# Blank characters and stripping

Two notions of white space occur in a gamebook.  `isBlank` is the wide one: what a typed line,
a clause or a number is stripped of.  `isAsciiBlank` is the narrow one, which may stand inside
a condition between its name, its operator and its value.

`strip` removes the blanks from both ends of a text and nothing else.
-/
import Gamebook.Text.Basic
import Gamebook.Text.CodeRange

namespace Gamebook.Text

/-- The code points that count as blank: the white-space characters of Unicode and the four
separator controls U+001C to U+001F. -/
def blankTable : List CodeRange :=
  [(0x09, 0x0D), (0x1C, 0x20), (0x85, 0x85), (0xA0, 0xA0), (0x1680, 0x1680), (0x2000, 0x200A),
   (0x2028, 0x2029), (0x202F, 0x202F), (0x205F, 0x205F), (0x3000, 0x3000)]

/-- White space in the wide sense. -/
def isBlank (c : Char) : Bool := CodeRange.covers blankTable c.toNat

/-- White space in the narrow sense: space, tab, line feed, vertical tab, form feed and
carriage return. -/
def isAsciiBlank (c : Char) : Bool := c == ' ' || (9 ≤ c.toNat && c.toNat ≤ 13)

/-- Drops the trailing elements that satisfy `p`. -/
def dropEndWhile {α : Type} (p : α → Bool) (as : List α) : List α :=
  (as.reverse.dropWhile p).reverse

/-- A list without the elements of `p` at its two ends. -/
def stripWhile {α : Type} (p : α → Bool) (as : List α) : List α :=
  dropEndWhile p (as.dropWhile p)

/-- A text without its surrounding blanks. -/
def strip (text : Text) : Text := stripWhile (Letter.isChar isBlank) text

/-- Whether a text holds nothing but blanks. -/
def isBlankText (text : Text) : Bool := text.all (Letter.isChar isBlank)

end Gamebook.Text

/-
# Cutting lists into parts

`splitAt` cuts at every occurrence of one separator, `conjuncts` cuts a text at every `&&`, taken
from left to right.  The separators belong to no part, and a list without one is a single part.
-/
import Gamebook.Text.Basic
import Gamebook.Text.Blank

namespace Gamebook.Text

variable {α : Type}

/-- Puts an element in front of the first of some parts. -/
def consFirst (a : α) : List (List α) → List (List α)
  | [] => [[a]]
  | part :: parts => (a :: part) :: parts

/-- The parts between the occurrences of a separator. -/
def splitAt [DecidableEq α] (separator : α) : List α → List (List α)
  | [] => [[]]
  | a :: rest =>
    if a = separator then [] :: splitAt separator rest
    else consFirst a (splitAt separator rest)

/-- The parts of a text between the occurrences of `&&`. -/
def conjuncts : Text → List Text
  | [] => [[]]
  | .char '&' :: .char '&' :: rest => [] :: conjuncts rest
  | letter :: rest => consFirst letter (conjuncts rest)

/-- Whether a character may stand in a name: an ASCII letter, a digit or an underscore. -/
def isNameChar (c : Char) : Bool := c.isAlphanum || c == '_'

end Gamebook.Text

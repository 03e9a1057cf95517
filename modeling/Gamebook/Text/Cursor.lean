/-
# Reading from the front of a text

A reader takes characters off the front of a text and hands back what is left.  `Rest cs` is
what is left of `cs` after at least one character was taken, so that a reader which goes on
with the rest ends.
-/

namespace Gamebook.Text

/-- A remainder of a text that is shorter than it. -/
abbrev Rest (cs : List Char) := { rest : List Char // rest.length < cs.length }

namespace Rest

/-- A remainder of a remainder, or of any text that is not longer. -/
def within {cs ds : List Char} (h : ds.length ≤ cs.length) (rest : Rest ds) : Rest cs :=
  ⟨rest.1, Nat.lt_of_lt_of_le rest.2 h⟩

end Rest

theorem length_dropWhile_le (p : Char → Bool) (cs : List Char) :
    (cs.dropWhile p).length ≤ cs.length :=
  (List.dropWhile_suffix p).sublist.length_le

end Gamebook.Text

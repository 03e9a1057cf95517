/-
# Closed ranges of code points

A property of characters is given as a table of closed ranges of code points, in ascending
order.  `CodeRange.covers` looks a character up in such a table.
-/

namespace Gamebook

/-- A closed range of code points, by its first and its last member. -/
abbrev CodeRange := Nat × Nat

namespace CodeRange

/-- Whether a code point lies in one of the ranges. -/
def covers (table : List CodeRange) (code : Nat) : Bool :=
  table.any fun range => range.1 ≤ code && code ≤ range.2

end CodeRange
end Gamebook

/-
# Line ends

A file may end its lines with a line feed, a carriage return, or one after the other.  Its text
is read with line feeds only.
-/

namespace Gamebook.Text

/-- A text in which all line ends are line feeds. -/
def withLineFeeds : List Char → List Char
  | [] => []
  | '\r' :: '\n' :: rest => '\n' :: withLineFeeds rest
  | '\r' :: rest => '\n' :: withLineFeeds rest
  | c :: rest => c :: withLineFeeds rest

end Gamebook.Text

/-
# Writing JSON

The pieces that a save file is made of.  Characters beyond ASCII stand for themselves; members
of an object stand on lines of their own, two blanks deeper than the object, and an object
without members is a pair of braces.

A file is written piece by piece.  Some pieces cannot be written: an integer with too many
digits, and a text with half of a surrogate pair.  `Pieces.written` is what reaches the file.
-/
import Gamebook.Number.Decimal
import Gamebook.Number.Literal
import Gamebook.Text.Quoted
import Gamebook.Variable.Value

namespace Gamebook.Json

/-! ## 1. Scalars -/

/-- A character inside a text: quotes, backslashes and control characters are escaped. -/
def escapedChar (c : Char) : List Char :=
  if c = '"' then ['\\', '"']
  else if c = '\\' then ['\\', '\\']
  else if c = '\n' then ['\\', 'n']
  else if c = '\r' then ['\\', 'r']
  else if c = '\t' then ['\\', 't']
  else if c.toNat = 8 then ['\\', 'b']
  else if c.toNat = 12 then ['\\', 'f']
  else if c.toNat < 0x20 then '\\' :: 'u' :: Text.hexDigits 4 c.toNat
  else [c]

/-- The characters of a text, if no half of a surrogate pair is among them. -/
def wholeChars? (t : Text) : Option (List Char) :=
  t.mapM fun
    | .char c => some c
    | .half _ => none

/-- A text in JSON. -/
def renderText (t : Text) : Except Fault String :=
  match wholeChars? t with
  | some cs => .ok (String.ofList ('"' :: cs.flatMap escapedChar ++ ['"']))
  | none => .error .loneHalf

/-- How numbers that are no finite doubles are written. -/
def numeralStyle : NumeralStyle := ⟨"NaN", "Infinity"⟩

/-- A number in JSON. -/
def renderNumber (n : Number) : Except Fault String :=
  if n.isOverlong then .error .tooManyDigits
  else match n with
    | .int n => .ok (toString n)
    | .double x => .ok (numeralStyle.render x)

/-- The value of a variable in JSON. -/
def renderValue : Value → Except Fault String
  | .null => .ok "null"
  | .bool b => .ok (if b then "true" else "false")
  | .number n => renderNumber n
  | .text t => renderText t

/-! ## 2. Pieces -/

/-- The pieces of a file in order: a text, or the fault that is met in its place. -/
abbrev Pieces := List (Except Fault String)

namespace Pieces

/-- What is written of some pieces, and the fault that ends the writing. -/
def written : Pieces → String × Option Fault
  | [] => ("", none)
  | .error fault :: _ => ("", some fault)
  | .ok text :: rest =>
    let (more, fault) := written rest
    (text ++ more, fault)

end Pieces

/-- The start of a line that is `depth` levels deep. -/
def newLine (depth : Nat) : String := String.ofList ('\n' :: List.replicate (2 * depth) ' ')

/-- The members of an object that stands `depth` levels deep, each behind the text `before`
or, from the second on, behind a comma. -/
def memberPieces (depth : Nat) (before : String) : List (Text × Pieces) → Pieces
  | [] => []
  | (name, value) :: rest =>
    .ok (before ++ newLine (depth + 1)) :: renderText name :: .ok ": " ::
      value ++ memberPieces depth "," rest

/-- An object that stands `depth` levels deep, from its names and the pieces of its values. -/
def objectPieces (depth : Nat) (members : List (Text × Pieces)) : Pieces :=
  if members.isEmpty then [.ok "\x7b\x7d"]
  else memberPieces depth "\x7b" members ++ [.ok (newLine depth ++ "\x7d")]

end Gamebook.Json

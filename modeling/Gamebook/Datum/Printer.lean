/-
# Data as text

Three ways to turn an atom into text.

* `Atom.shown` is how messages show it: texts in quotes.
* `Atom.plain` is the same, except that a text, a date or a moment stands for itself.
* `Atom.content` is how a field of a story reads it: nothing for null, `true` and `false` for
  the truth values, and `plain` for everything else.

`Datum.shown` shows lists and mappings in brackets.  An integer with too many digits has no text,
and neither has what is nested too deeply.
-/
import Gamebook.Datum.Basic
import Gamebook.Number.Decimal
import Gamebook.Text.Quoted

namespace Gamebook

/-- A number as it is shown: an integer in decimal digits, a double by its shortest numeral. -/
def Number.shown : Number → String
  | .int n => toString n
  | .double x => NumeralStyle.plain.render x

/-- A truth value as it is shown. -/
def shownBool (b : Bool) : String := if b then "True" else "False"

/-- The value of a variable as it is shown. -/
def Value.shown : Value → Text
  | .null => "None"
  | .bool b => shownBool b
  | .number n => n.shown
  | .text t => t

/-! ## 1. Atoms -/

namespace Atom

/-- A byte between the quotes `quote`. -/
def shownByte (quote : Char) (b : UInt8) : List Char :=
  let c := Char.ofNat b.toNat
  if c = '\\' ∨ c = quote then ['\\', c]
  else if c = '\t' then ['\\', 't']
  else if c = '\n' then ['\\', 'n']
  else if c = '\r' then ['\\', 'r']
  else if 0x20 ≤ b ∧ b < 0x7F then [c]
  else '\\' :: 'x' :: Text.hexDigits 2 b.toNat

/-- Bytes as messages show them. -/
def shownBytes (bs : List UInt8) : String :=
  let quote := Text.quoteFor (bs.map fun b => Char.ofNat b.toNat)
  String.ofList ('b' :: quote :: bs.flatMap (shownByte quote) ++ [quote])

/-- An atom as messages show it. -/
def shown : Atom → Except Fault String
  | .null => .ok "None"
  | .bool b => .ok (shownBool b)
  | .number n => if n.isOverlong then .error .tooManyDigits else .ok n.shown
  | .text t => .ok (Text.quoted t)
  | .date d => .ok (Calendar.dateShown d)
  | .moment m => .ok (Calendar.momentShown m)
  | .bytes bs => .ok (shownBytes bs)

/-- An atom as plain text. -/
def plain : Atom → Except Fault Text
  | .text t => .ok t
  | .date d => .ok (Calendar.dateText d)
  | .moment m => .ok (Calendar.momentText m)
  | a => a.shown.map Text.ofString

/-- An atom as the content of a field. -/
def content : Atom → Except Fault Text
  | .null => .ok []
  | .bool b => .ok (if b then "true" else "false")
  | a => a.plain

end Atom

/-! ## 2. Lists and mappings -/

/-- A list in brackets, from the texts of its items. -/
def shownList (items : List String) : String := "[" ++ ", ".intercalate items ++ "]"

/-- Something in braces, from the texts of its parts. -/
def shownBraces (parts : List String) : String := "\x7b" ++ ", ".intercalate parts ++ "\x7d"

/-- How many layers deep something may be that is shown.  This is no property of data: every layer
takes a place on the call stack, and the bound is what is left of the stack by the calls that are
under way.  The figure is that of a reader called by a program that calls nothing else around it;
under more calls it is lower by as many. -/
def shownLimit : Nat := 988

namespace Datum

/-- A datum as messages show it, down to some depth. -/
def shownWithin : Nat → Datum → Except Fault String
  | 0, _ => .error .tooDeep
  | _ + 1, .atom a => a.shown
  | depth + 1, .list items => (items.mapM (shownWithin depth)).map shownList
  | depth + 1, .map fields =>
    (fields.mapM fun (entry : Atom × Datum) => do
      let name ← shownWithin depth (.atom entry.1)
      return name ++ ": " ++ (← shownWithin depth entry.2)).map shownBraces

/-- A datum as messages show it. -/
def shown (d : Datum) : Except Fault String := d.shownWithin shownLimit

end Datum
end Gamebook

/-
# Values of game variables

A variable holds a truth value or a number; a snapshot from outside may also bring a text or
nothing at all.  `Value.toNumber?` is the number that a value counts as: one or zero for a truth
value, the number itself unless it is NaN, the number that a text denotes, and none otherwise.
-/
import Gamebook.Number.Literal

namespace Gamebook

/-- What a game variable holds. -/
inductive Value where
  | null
  | bool (b : Bool)
  | number (n : Number)
  | text (s : Text)
deriving DecidableEq

namespace Value

instance : Inhabited Value := ⟨.null⟩

/-- The value of a name that has none: the integer zero. -/
def zero : Value := .number .zero

/-- The number that a value counts as, if any. -/
def toNumber? : Value → Option Number
  | .bool b => some (.ofBool b)
  | .number n => if n.isNaN then none else some n
  | .text s => Number.ofText? s
  | .null => none

/-- The number that a value counts as, or else `fallback`. -/
def toNumber (v : Value) (fallback : Number) : Number := v.toNumber?.getD fallback

/-- Whether a value is an integer with more digits than are read or written. -/
def isOverlong : Value → Bool
  | .number n => n.isOverlong
  | _ => false

end Value
end Gamebook

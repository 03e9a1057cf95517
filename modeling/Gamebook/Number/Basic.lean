/-
# Numbers: integers and doubles

A number of a gamebook is an unbounded integer or a double.  The two kinds stay apart (`5` and
`5.0` are shown differently) and compare exactly: `Number.position` puts every number except
NaN on one line, in units of `2 ^ -1074`, and `Number.lt`, `Number.le` and `Number.same` are the
order and the equality of that line.  NaN has no position, so all three are false of it.

Arithmetic on two integers is exact; as soon as a double takes part, the integer is first
turned into a double, which fails beyond the finite doubles.
-/
import Gamebook.Fault
import Gamebook.Number.Binary64

namespace Gamebook

/-- An integer or a double. -/
inductive Number where
  | int (n : Int)
  | double (x : Binary64)
deriving DecidableEq

namespace Number

instance : Inhabited Number := ⟨.int 0⟩

/-! ## 1. Order -/

/-- A position on the number line with its two ends, in units of `2 ^ -1074`. -/
inductive Position where
  | below
  | at (units : Int)
  | above
deriving DecidableEq

namespace Position

/-- Strictly to the left. -/
def lt : Position → Position → Bool
  | .below, .below => false
  | .below, _ => true
  | .at u, .at v => decide (u < v)
  | .at _, .above => true
  | _, _ => false

end Position

/-- Where a number lies; NaN lies nowhere. -/
def position : Number → Option Position
  | .int n => some (.at (n * unitsPerOne))
  | .double (.finite negative units _) => some (.at (Binary64.signedUnits negative units))
  | .double (.infinite negative) => some (if negative then .below else .above)
  | .double .nan => none

/-- A relation of positions as a relation of numbers, false of NaN. -/
def related (r : Position → Position → Bool) (a b : Number) : Bool :=
  match a.position, b.position with
  | some p, some q => r p q
  | _, _ => false

/-- Exact strict order. -/
def lt (a b : Number) : Bool := related Position.lt a b

/-- Exact order. -/
def le (a b : Number) : Bool := related (fun p q => !Position.lt q p) a b

/-- Equality of values, whatever the kind; NaN is not equal to itself. -/
def same (a b : Number) : Bool := related (fun p q => decide (p = q)) a b

/-- Whether this is the double that is no number. -/
def isNaN : Number → Bool
  | .double x => x.isNaN
  | .int _ => false

/-! ## 2. Arithmetic -/

/-- The zero of the integers. -/
def zero : Number := .int 0

/-- One or zero, for a truth value. -/
def ofBool (b : Bool) : Number := .int (if b then 1 else 0)

/-- The double of a number. -/
def toBinary64 : Number → Except Fault Binary64
  | .double x => .ok x
  | .int n => match Binary64.ofInt? n with
    | some x => .ok x
    | none => .error .tooLarge

/-- Adds an integer. -/
def addInt (a : Number) (n : Int) : Except Fault Number :=
  match a with
  | .int m => .ok (.int (m + n))
  | .double x => do return .double (x.add (← toBinary64 (.int n)))

/-- Takes an integer away. -/
def subInt (a : Number) (n : Int) : Except Fault Number :=
  match a with
  | .int m => .ok (.int (m - n))
  | .double x => do return .double (x.sub (← toBinary64 (.int n)))

/-- The product. -/
def mul : Number → Number → Except Fault Number
  | .int m, .int n => .ok (.int (m * n))
  | a, b => do return .double ((← a.toBinary64).mul (← b.toBinary64))

/-- The integer part, toward zero.  NaN and the infinities have none. -/
def truncate : Number → Except Fault Int
  | .int n => .ok n
  | .double (.finite negative units _) => .ok (Binary64.truncateUnits negative units)
  | .double (.infinite _) => .error .tooLarge
  | .double .nan => .error .noInteger

/-- The lesser of `cap` and `x`, where `x` is taken only if it is strictly less. -/
def capped (cap x : Number) : Number := if x.lt cap then x else cap

end Number
end Gamebook

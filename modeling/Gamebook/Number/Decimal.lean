/-
# Decimal numerals of doubles

Reading takes a decimal `digits * 10 ^ exponent` to the nearest double.  Writing takes a finite
double to the decimal with the **fewest digits that read back to it**, and of those to the
nearest one, a tie going to an even last digit.

The reals that read as a double of magnitude `u` lie between the midpoints to its neighbours,
ends included if its significand is even; `readsBack` is that test, in exact integer
arithmetic.  On the grid of a power of ten the two neighbours of `u` are tested, grid after
grid from the coarsest; no double needs more than seventeen digits.
-/
import Gamebook.Number.Binary64

namespace Gamebook

/-- The number `digits * 10 ^ exponent`. -/
structure Decimal where
  digits : Nat
  exponent : Int
deriving DecidableEq, Inhabited, Repr

namespace Decimal

/-- How many digits a natural number has; none for zero. -/
def width (n : Nat) : Nat := if n = 0 then 0 else (Nat.toDigits 10 n).length

/-! ## 1. Reading -/

/-- The double nearest to a decimal, with the given sign.  A decimal of `10 ^ 400` or more is
infinite and one below `10 ^ -400` is zero, without any power of ten being computed. -/
def toBinary64 (negative : Bool) (d : Decimal) : Binary64 :=
  let leading := width d.digits + d.exponent
  if d.digits = 0 ∨ leading < -400 then .zero negative
  else if 400 < leading then .infinite negative
  else
    .ofQuotient negative (d.digits * Nat.pow 10 d.exponent.toNat * unitsPerOne)
      (Nat.pow 10 (-d.exponent).toNat)

/-! ## 2. Writing -/

/-- The ends of the interval that reads as the magnitude `units`, in quarters of a unit.  Below
a power of two the neighbour is only half as far as above. -/
def interval (units : Nat) : Nat × Nat :=
  let step := Nat.pow 2 (surplusBits units)
  let below := if 0 < surplusBits units ∧ units = Nat.pow 2 52 * step then step else 2 * step
  (4 * units - below, 4 * units + 2 * step)

/-- The decimal in quarters of a unit, as a quotient. -/
def quarters (d : Decimal) : Nat × Nat :=
  (4 * d.digits * Nat.pow 10 d.exponent.toNat * unitsPerOne, Nat.pow 10 (-d.exponent).toNat)

/-- Whether a decimal is among the reals that read as the magnitude `units`. -/
def readsBack (units : Nat) (d : Decimal) : Bool :=
  let (low, high) := interval units
  let (numerator, denominator) := quarters d
  if (units / Nat.pow 2 (surplusBits units)) % 2 = 0 then
    low * denominator ≤ numerator && numerator ≤ high * denominator
  else
    low * denominator < numerator && numerator < high * denominator

/-- The decimal exponent just above a positive magnitude: the least `k` with the number below
`10 ^ k`.  The number times `10 ^ 324` is at least one. -/
def scale (units : Nat) : Int := width (units * Nat.pow 10 324 / unitsPerOne) - 324

/-- The decimal of the grid `10 ^ exponent` that reads as the magnitude `units`, if there is
one: the nearer of the two neighbours, of equally near ones the even one. -/
def onGrid? (units : Nat) (exponent : Int) : Option Decimal :=
  let numerator := units * Nat.pow 10 (-exponent).toNat
  let denominator := unitsPerOne * Nat.pow 10 exponent.toNat
  let floor : Decimal := ⟨numerator / denominator, exponent⟩
  let above : Decimal := ⟨numerator / denominator + 1, exponent⟩
  let nearest : Decimal := ⟨roundQuotient numerator denominator, exponent⟩
  match readsBack units floor, readsBack units above with
  | true, true => some nearest
  | true, false => some floor
  | false, true => some above
  | false, false => none

/-- Moves trailing zeros of the digits into the exponent. -/
def stripZeros (d : Decimal) : Decimal :=
  if h : d.digits ≠ 0 ∧ d.digits % 10 = 0 then
    stripZeros ⟨d.digits / 10, d.exponent + 1⟩
  else d
termination_by d.digits
decreasing_by exact Nat.div_lt_self (Nat.pos_of_ne_zero h.1) (by decide)

/-- **The shortest decimal** that reads as a positive magnitude, without trailing zeros. -/
def shortest (units : Nat) : Decimal :=
  let grids := (List.range 17).map fun n => scale units - (n + 1 : Nat)
  stripZeros ((grids.findSome? (onGrid? units)).getD ⟨units * Nat.pow 5 1074, -1074⟩)

end Decimal

/-! ## 3. Layout -/

/-- How a numeral of a double is laid out where it is not settled by its digits. -/
structure NumeralStyle where
  /-- The text of the number that is none. -/
  nan : String
  /-- The text of positive infinity. -/
  infinity : String

namespace NumeralStyle

/-- Decimal digits of a number, the leading ones first. -/
def digitsOf (n : Nat) : List Char := (toString n).toList

/-- A decimal exponent with its sign and at least two digits. -/
def exponentText (e : Int) : List Char :=
  let digits := digitsOf e.natAbs
  (if e < 0 then '-' else '+') :: (if digits.length < 2 then '0' :: digits else digits)

/-- **The layout of a decimal**, given by its digits and the exponent of the leading one.
Exponents from -4 to 15 are written positionally, always with a point and a digit after it;
others with an exponent, which has a sign and at least two digits. -/
def layout (digits : List Char) (leading : Int) : List Char :=
  if leading < -4 ∨ 16 ≤ leading then
    let mantissa := match digits with
      | first :: [] => [first]
      | first :: rest => first :: '.' :: rest
      | [] => []
    mantissa ++ 'e' :: exponentText leading
  else if leading < 0 then
    '0' :: '.' :: List.replicate (-leading - 1).toNat '0' ++ digits
  else
    let whole := leading.toNat + 1
    if digits.length ≤ whole then
      digits ++ List.replicate (whole - digits.length) '0' ++ ['.', '0']
    else
      digits.take whole ++ '.' :: digits.drop whole

/-- The numeral of a double: the shortest digits that read back to it. -/
def render (style : NumeralStyle) : Binary64 → String
  | .nan => style.nan
  | .infinite negative => (if negative then "-" else "") ++ style.infinity
  | .finite negative units _ =>
    let body :=
      if units = 0 then ['0', '.', '0']
      else
        let d := Decimal.shortest units
        let digits := digitsOf d.digits
        layout digits (d.exponent + digits.length - 1)
    String.ofList (if negative then '-' :: body else body)

/-- How the program shows a double. -/
def plain : NumeralStyle := ⟨"nan", "inf"⟩

end NumeralStyle
end Gamebook

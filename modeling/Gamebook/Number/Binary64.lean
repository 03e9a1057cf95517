/-
# Double-precision numbers, exactly

A finite double is an integer multiple of the least positive one, `2 ^ -1074`.  Here it *is*
that integer, its number of **units**, together with a sign (there are two zeros) and the fact
that the units fit: at most 53 significant bits, and below `2 ^ 1024`.  Every operation is
computed exactly in the integers and then rounded once, to nearest, ties to even.

* `roundUnits` is that rounding, for a quotient of two natural numbers; `roundUnits_fits` says
  that its result has at most 53 significant bits.
* `Binary64.ofQuotient` makes a double of a rounded quotient, infinite if it is too large.
* `Binary64.add`, `Binary64.mul`, `Binary64.ofInt?` and `Binary64.truncate` are the arithmetic
  that a gamebook needs.
-/

namespace Gamebook

/-! ## 1. Rounding -/

/-- How many units make one: a unit is `2 ^ -1074`. -/
def unitsPerOne : Nat := Nat.pow 2 1074

/-- The first number of units beyond the finite doubles: `2 ^ 1024`. -/
def unitsLimit : Nat := Nat.pow 2 2098

theorem unitsPerOne_pos : 0 < unitsPerOne := by
  unfold unitsPerOne
  apply Nat.two_pow_pos

theorem unitsLimit_pos : 0 < unitsLimit := by
  unfold unitsLimit
  apply Nat.two_pow_pos

/-- A quotient rounded to the nearest natural number, a half to the even neighbour. -/
def roundQuotient (numerator denominator : Nat) : Nat :=
  let floor := numerator / denominator
  let twice := 2 * (numerator % denominator)
  if twice < denominator then floor
  else if denominator < twice then floor + 1
  else if floor % 2 = 0 then floor else floor + 1

theorem pow_two_add (m n : Nat) : Nat.pow 2 (m + n) = Nat.pow 2 m * Nat.pow 2 n :=
  Nat.pow_add 2 m n

/-- How many of the low bits of a number of units lie beyond its 53 leading ones. -/
def surplusBits (units : Nat) : Nat := units.log2 + 1 - 53

/-- A quotient rounded to 53 significant bits. -/
def roundUnits (numerator denominator : Nat) : Nat :=
  let surplus := surplusBits (numerator / denominator)
  roundQuotient numerator (denominator * Nat.pow 2 surplus) * Nat.pow 2 surplus

/-- **A magnitude of a finite double**: at most 53 significant bits, and below the limit. -/
def FitsBinary64 (units : Nat) : Prop :=
  units < unitsLimit ∧
    ∃ significand shift, significand < Nat.pow 2 53 ∧ units = significand * Nat.pow 2 shift

theorem roundQuotient_le (numerator denominator : Nat) :
    roundQuotient numerator denominator ≤ numerator / denominator + 1 := by
  simp only [roundQuotient]
  split
  · omega
  · split
    · omega
    · split <;> omega

theorem lt_pow_surplusBits (units : Nat) : units < Nat.pow 2 (53 + surplusBits units) := by
  refine Nat.lt_of_lt_of_le Nat.lt_log2_self ?_
  exact Nat.pow_le_pow_right (by decide) (by unfold surplusBits; omega)

/-- Rounding leaves at most 53 significant bits. -/
theorem roundUnits_fits (numerator denominator : Nat) :
    ∃ significand shift,
      significand < Nat.pow 2 53 ∧ roundUnits numerator denominator
        = significand * Nat.pow 2 shift := by
  simp only [roundUnits]
  generalize hs : surplusBits (numerator / denominator) = surplus
  have hlt : numerator / (denominator * Nat.pow 2 surplus) < Nat.pow 2 53 := by
    rw [← Nat.div_div_eq_div_mul]
    apply Nat.div_lt_of_lt_mul
    have := lt_pow_surplusBits (numerator / denominator)
    rw [hs, pow_two_add, Nat.mul_comm] at this
    exact this
  have hle := roundQuotient_le numerator (denominator * Nat.pow 2 surplus)
  generalize roundQuotient numerator (denominator * Nat.pow 2 surplus) = rounded at hle ⊢
  rcases Nat.lt_or_ge rounded (Nat.pow 2 53) with h | h
  · exact ⟨rounded, surplus, h, rfl⟩
  · refine ⟨1, 53 + surplus, by decide, ?_⟩
    have h53 : rounded = Nat.pow 2 53 := Nat.le_antisymm (Nat.le_trans hle hlt) h
    rw [h53, Nat.one_mul, pow_two_add]

/-! ## 2. The numbers -/

/-- A double-precision number. -/
inductive Binary64 where
  /-- A finite number, by its sign and its magnitude in units; the two zeros differ in sign. -/
  | finite (negative : Bool) (units : Nat) (fits : FitsBinary64 units)
  /-- Infinity, of either sign. -/
  | infinite (negative : Bool)
  /-- The result that is no number. -/
  | nan
deriving DecidableEq

namespace Binary64

theorem zero_fits : FitsBinary64 0 := ⟨unitsLimit_pos, 0, 0, by decide, rfl⟩

/-- Zero, of either sign. -/
def zero (negative : Bool) : Binary64 := .finite negative 0 zero_fits

instance : Inhabited Binary64 := ⟨zero false⟩

/-- Whether a double is the one that is no number. -/
def isNaN : Binary64 → Bool
  | .nan => true
  | _ => false

/-- The double nearest to a quotient of units, with the given sign. -/
def ofQuotient (negative : Bool) (numerator denominator : Nat) : Binary64 :=
  if h : roundUnits numerator denominator < unitsLimit then
    .finite negative (roundUnits numerator denominator) ⟨h, roundUnits_fits numerator denominator⟩
  else
    .infinite negative

/-- The double nearest to an integer number of units; zero is positive. -/
def ofUnits (units : Int) : Binary64 := ofQuotient (decide (units < 0)) units.natAbs 1

/-- The double nearest to an integer, if it is not beyond the finite doubles. -/
def ofInt? (n : Int) : Option Binary64 :=
  match ofUnits (n * unitsPerOne) with
  | .infinite _ => none
  | x => some x

/-- Zero or one, for a truth value. -/
def ofBool (b : Bool) : Binary64 := ofUnits (if b then unitsPerOne else 0)

/-! ## 3. Arithmetic -/

/-- A magnitude in units with its sign. -/
def signedUnits (negative : Bool) (units : Nat) : Int := if negative then -units else units

/-- The number with the opposite sign. -/
def neg : Binary64 → Binary64
  | .finite negative units fits => .finite (!negative) units fits
  | .infinite negative => .infinite (!negative)
  | .nan => .nan

/-- The sum.  An exact zero is negative only if both summands are negative zeros; opposite
infinities have no sum. -/
def add : Binary64 → Binary64 → Binary64
  | .nan, _ => .nan
  | _, .nan => .nan
  | .infinite s, .infinite t => if s = t then .infinite s else .nan
  | .infinite s, .finite .. => .infinite s
  | .finite .., .infinite t => .infinite t
  | .finite s u _, .finite t v _ =>
    let sum := signedUnits s u + signedUnits t v
    if sum = 0 then zero (s && t) else ofUnits sum

/-- The difference. -/
def sub (x y : Binary64) : Binary64 := add x (neg y)

/-- The product.  Infinity times zero is no number. -/
def mul : Binary64 → Binary64 → Binary64
  | .nan, _ => .nan
  | _, .nan => .nan
  | .infinite s, .infinite t => .infinite (s != t)
  | .infinite s, .finite t v _ => if v = 0 then .nan else .infinite (s != t)
  | .finite s u _, .infinite t => if u = 0 then .nan else .infinite (s != t)
  | .finite s u _, .finite t v _ => ofQuotient (s != t) (u * v) unitsPerOne

/-- The integer part of a number of units, toward zero. -/
def truncateUnits (negative : Bool) (units : Nat) : Int :=
  signedUnits negative (units / unitsPerOne)

end Binary64
end Gamebook

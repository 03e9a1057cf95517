/-
# Where arithmetic fails

An integer that is beyond the finite doubles has no double near it.  Arithmetic fails exactly where
such an integer meets a double; no integer below `nearLimit` is one (`not_beyond_of_lt`).
-/
import Gamebook.Number.Literal

namespace Gamebook

namespace Number

/-! ## 1. Failing -/

variable {a b : Number} {n : Int} {fault : Fault}

/-- An integer beyond the finite doubles. -/
def Beyond : Number → Prop
  | .int n => Binary64.ofInt? n = none
  | .double _ => False

theorem not_beyond_double (x : Binary64) : ¬ (double x).Beyond := id

theorem toBinary64_double (x : Binary64) : (double x).toBinary64 = .ok x := rfl

theorem toBinary64_eq_error_iff : a.toBinary64 = .error fault ↔ fault = .tooLarge ∧ a.Beyond := by
  cases a with
  | double x => simp only [toBinary64_double, not_beyond_double, and_false, reduceCtorEq]
  | int n =>
    unfold toBinary64 Beyond
    simp only
    generalize Binary64.ofInt? n = near
    cases near <;> simp [eq_comm]

/-- **Adding an integer fails only on a double, and only if the integer is beyond the doubles.** -/
theorem addInt_eq_error_iff :
    a.addInt n = .error fault ↔ fault = .tooLarge ∧ (∃ x, a = .double x) ∧ (int n).Beyond := by
  cases a with
  | int m => simp only [addInt, reduceCtorEq, exists_false, false_and, and_false]
  | double x =>
    have failed : (double x).addInt n = .error fault ↔ (int n).toBinary64 = .error fault := by
      simp only [addInt]
      cases (int n).toBinary64 <;> simp [bind, Except.bind, pure, Except.pure]
    rw [failed, toBinary64_eq_error_iff]
    simp

/-- Nor does taking one away. -/
theorem subInt_eq_error_iff :
    a.subInt n = .error fault ↔ fault = .tooLarge ∧ (∃ x, a = .double x) ∧ (int n).Beyond := by
  cases a with
  | int m => simp only [subInt, reduceCtorEq, exists_false, false_and, and_false]
  | double x =>
    have failed : (double x).subInt n = .error fault ↔ (int n).toBinary64 = .error fault := by
      simp only [subInt]
      cases (int n).toBinary64 <;> simp [bind, Except.bind, pure, Except.pure]
    rw [failed, toBinary64_eq_error_iff]
    simp

/-- **A product fails only of an integer beyond the doubles and a double.** -/
theorem mul_eq_error_iff :
    a.mul b = .error fault ↔
      fault = .tooLarge ∧ ((a.Beyond ∧ ∃ x, b = .double x) ∨ (b.Beyond ∧ ∃ x, a = .double x)) := by
  have failed {x y : Number} (mixed : x.mul y = do
      return .double ((← x.toBinary64).mul (← y.toBinary64))) :
      x.mul y = .error fault ↔ fault = .tooLarge ∧ (x.Beyond ∨ y.Beyond) := by
    rw [mixed, and_or_left, ← toBinary64_eq_error_iff, ← toBinary64_eq_error_iff]
    cases first : x.toBinary64 with
    | error other =>
      obtain ⟨rfl, -⟩ := toBinary64_eq_error_iff.mp first
      cases second : y.toBinary64 with
      | error another =>
        obtain ⟨rfl, -⟩ := toBinary64_eq_error_iff.mp second
        simp [bind, Except.bind]
      | ok y => simp [bind, Except.bind]
    | ok x => cases y.toBinary64 <;> simp [bind, Except.bind, pure, Except.pure]
  cases a with
  | int m =>
    cases b with
    | int n => simp [mul]
    | double y =>
      rw [failed rfl]
      simp [not_beyond_double]
  | double x =>
    rw [failed (by cases b <;> rfl)]
    simp [not_beyond_double]

/-! ## 2. Near integers -/

/-- A bound below which every integer has a double near it; it has far fewer digits than may be read
and written. -/
@[irreducible]
def nearLimit : Nat := Nat.pow 2 1023

/-- Rounding to a double at most doubles an integer, and adds one. -/
theorem roundUnits_le (units : Nat) : roundUnits units 1 ≤ 2 * units + 1 := by
  have steps : Nat.pow 2 (surplusBits units) ≤ units + 1 := by
    rcases Nat.eq_zero_or_pos (surplusBits units) with none | some
    · rw [none]
      exact Nat.le_add_left 1 units
    · have nonzero : units ≠ 0 := by
        rintro rfl
        exact absurd some (by decide)
      have power : Nat.pow 2 (surplusBits units) ≤ Nat.pow 2 units.log2 :=
        Nat.pow_le_pow_right (by decide) (by unfold surplusBits; omega)
      exact Nat.le_succ_of_le (Nat.le_trans power (Nat.log2_self_le nonzero))
  unfold roundUnits
  simp only [Nat.div_one, Nat.one_mul]
  generalize Nat.pow 2 (surplusBits units) = step at steps ⊢
  calc roundQuotient units step * step
      ≤ (units / step + 1) * step := Nat.mul_le_mul_right _ (roundQuotient_le units step)
    _ = units / step * step + step := Nat.succ_mul _ _
    _ ≤ units + (units + 1) := Nat.add_le_add (Nat.div_mul_le_self units step) steps
    _ = 2 * units + 1 := by omega

theorem unitsLimit_eq : unitsLimit = 2 * (nearLimit * unitsPerOne) := by decide +kernel

theorem nearLimit_le : nearLimit ≤ Nat.pow 10 Literal.digitLimit := by decide +kernel

theorem natAbs_mul_natCast (n : Int) (k : Nat) : (n * k).natAbs = n.natAbs * k :=
  Int.natAbs_mul n k

/-- **An integer below the bound has a double near it.** -/
theorem not_beyond_of_lt (small : n.natAbs < nearLimit) : ¬ (int n).Beyond := by
  intro beyond
  have fits : roundUnits (n * unitsPerOne).natAbs 1 < unitsLimit := by
    have rounded := roundUnits_le (n * unitsPerOne).natAbs
    have units : n.natAbs * unitsPerOne < nearLimit * unitsPerOne :=
      Nat.mul_lt_mul_of_pos_right small unitsPerOne_pos
    rw [natAbs_mul_natCast] at rounded ⊢
    rw [unitsLimit_eq]
    generalize n.natAbs * unitsPerOne = x at *
    generalize nearLimit * unitsPerOne = y at *
    omega
  have finite : ∃ x, Binary64.ofInt? n = some x := by
    unfold Binary64.ofInt? Binary64.ofUnits Binary64.ofQuotient
    rw [dif_pos fits]
    exact ⟨_, rfl⟩
  obtain ⟨x, near⟩ := finite
  exact Option.some_ne_none x (near.symm.trans beyond)

/-- Small integers, such as the thresholds of a configuration by default, are below the bound. -/
theorem not_beyond_of_small (small : n.natAbs < 8) : ¬ (int n).Beyond :=
  not_beyond_of_lt (Nat.lt_of_lt_of_le small (by decide +kernel))

theorem not_overlong_of_lt (small : n.natAbs < nearLimit) : (int n).isOverlong = false := by
  simp only [isOverlong, decide_eq_false_iff_not, Nat.not_le]
  exact Nat.lt_of_lt_of_le small nearLimit_le

/-- Rounding to a double at most halves an integer. -/
theorem le_roundUnits (units : Nat) : units ≤ 2 * roundUnits units 1 := by
  rcases Nat.eq_zero_or_pos units with rfl | positive
  · exact Nat.zero_le _
  · have steps : Nat.pow 2 (surplusBits units) ≤ units := by
      have power : Nat.pow 2 (surplusBits units) ≤ Nat.pow 2 units.log2 :=
        Nat.pow_le_pow_right (by decide) (by unfold surplusBits; omega)
      exact Nat.le_trans power (Nat.log2_self_le (Nat.pos_iff_ne_zero.mp positive))
    unfold roundUnits
    simp only [Nat.div_one, Nat.one_mul]
    have stepped : 0 < Nat.pow 2 (surplusBits units) := Nat.two_pow_pos _
    generalize Nat.pow 2 (surplusBits units) = step at steps stepped ⊢
    have whole : 1 ≤ units / step := Nat.div_pos steps stepped
    have below : units / step ≤ roundQuotient units step := by
      simp only [roundQuotient]
      repeat' split
      all_goals omega
    calc units
        ≤ (units / step + 1) * step := by
          rw [Nat.mul_comm]
          exact Nat.le_of_lt (Nat.lt_mul_div_succ units stepped)
      _ ≤ 2 * (roundQuotient units step * step) := by
        rw [← Nat.mul_assoc]
        exact Nat.mul_le_mul_right step (by omega)

theorem twice_unitsLimit_le : 2 * unitsLimit ≤ Nat.pow 10 Literal.digitLimit * unitsPerOne := by
  decide +kernel

/-- **An integer that has a double near it is short enough to be shown.** -/
theorem not_overlong_of_not_beyond (near : ¬ (int n).Beyond) : (int n).isOverlong = false := by
  simp only [isOverlong, decide_eq_false_iff_not]
  intro long
  refine near ?_
  have above : unitsLimit ≤ roundUnits (n * unitsPerOne).natAbs 1 := by
    have rounded := le_roundUnits (n * unitsPerOne).natAbs
    have units : Nat.pow 10 Literal.digitLimit * unitsPerOne ≤ n.natAbs * unitsPerOne :=
      Nat.mul_le_mul_right _ long
    have limit := twice_unitsLimit_le
    rw [natAbs_mul_natCast] at rounded ⊢
    generalize n.natAbs * unitsPerOne = x at *
    generalize Nat.pow 10 Literal.digitLimit * unitsPerOne = y at *
    omega
  have infinite : Binary64.ofInt? n = none := by
    unfold Binary64.ofInt? Binary64.ofUnits Binary64.ofQuotient
    rw [dif_neg (Nat.not_lt.mpr above)]
  exact infinite

end Number

end Gamebook

/-
# Numerals that read back

A double is written as the shortest decimal that reads as it.  This file settles that reading does
take that decimal to the double again (`toBinary64_of_same`), however the decimal is laid out: what
counts is its value.

* **Rounding.**  A quotient between the midpoints around a magnitude is rounded to it, the ends
  included if the significand is even (`Nearest.roundUnits_eq`).  The one case that needs care is
  the lower half of the interval at a power of two, where the steps are half as wide.
* **The test.**  `readsBack` is just this condition (`nearest_of_readsBack`), and it only hangs on
  the value of a decimal (`readsBack_congr`).
* **The search.**  Whatever the grids give, the shortest decimal passes the test
  (`readsBack_shortest`), be it found on one of them or be it the magnitude itself.
-/
import Gamebook.Number.Decimal
import Mathlib.Tactic.Linarith
import Mathlib.Tactic.Ring

namespace Gamebook

/-! ## 1. Rounding to a given number -/

/-- **A quotient is rounded to `m`** if it is at most half away from `m`, and less than that if `m`
is odd. -/
theorem roundQuotient_eq {n d m : Nat} (positive : 0 < d) (low : 2 * (m * d) ≤ 2 * n + d)
    (high : 2 * n ≤ 2 * (m * d) + d)
    (tie : m % 2 = 1 → 2 * (m * d) < 2 * n + d ∧ 2 * n < 2 * (m * d) + d) :
    roundQuotient n d = m := by
  have split : d * (n / d) + n % d = n := Nat.div_add_mod n d
  have small : n % d < d := Nat.mod_lt n positive
  rcases Nat.lt_or_ge n (m * d) with below | above
  · -- The floor is the number before `m`.
    obtain ⟨k, rfl⟩ : ∃ k, m = k + 1 := ⟨m - 1, by
      rcases Nat.eq_zero_or_pos m with rfl | h
      · simp at below
      · omega⟩
    have expand : (k + 1) * d = k * d + d := Nat.succ_mul k d
    have floor : n / d = k := Nat.div_eq_of_lt_le (by omega) (by omega)
    rw [floor, Nat.mul_comm] at split
    unfold roundQuotient
    simp only [floor]
    split
    · omega
    · split
      · rfl
      · split
        · omega
        · rfl
  · have expand : (m + 1) * d = m * d + d := Nat.succ_mul m d
    have floor : n / d = m := Nat.div_eq_of_lt_le above (by omega)
    rw [floor, Nat.mul_comm] at split
    unfold roundQuotient
    simp only [floor]
    split
    · rfl
    · split
      · omega
      · split
        · rfl
        · omega

theorem roundQuotient_mem (n d : Nat) :
    roundQuotient n d = n / d ∨ roundQuotient n d = n / d + 1 := by
  unfold roundQuotient
  simp only
  split
  · exact .inl rfl
  · split
    · exact .inr rfl
    · split
      · exact .inl rfl
      · exact .inr rfl

/-- The number of surplus bits is settled by the place of the leading bit. -/
theorem surplusBits_eq {units s : Nat} (low : Nat.pow 2 (52 + s) ≤ units)
    (high : units < Nat.pow 2 (53 + s)) : surplusBits units = s := by
  have positive : units ≠ 0 := by
    have : 0 < Nat.pow 2 (52 + s) := Nat.two_pow_pos _
    omega
  have log : units.log2 = 52 + s := (Nat.log2_eq_iff positive).mpr
    ⟨low, by rw [show 52 + s + 1 = 53 + s by omega]; exact high⟩
  unfold surplusBits
  omega

theorem surplusBits_eq_zero {units : Nat} (high : units < Nat.pow 2 53) :
    surplusBits units = 0 := by
  rcases Nat.eq_zero_or_pos units with rfl | positive
  · rfl
  · have log : units.log2 < 53 := (Nat.log2_lt (by omega)).mpr high
    unfold surplusBits
    omega

/-- **A magnitude in its canonical form**: a significand and a step, which is one unless the
significand has all its 53 bits. -/
structure Canonical (units significand shift : Nat) : Prop where
  eq : units = significand * Nat.pow 2 shift
  lt : significand < Nat.pow 2 53
  full : 0 < shift → Nat.pow 2 52 ≤ significand

theorem canonical_of_fits {units : Nat} (fits : FitsBinary64 units) :
    Canonical units (units / Nat.pow 2 (surplusBits units)) (surplusBits units) := by
  obtain ⟨-, significand, shift, bound, rfl⟩ := fits
  generalize surplus : surplusBits (significand * Nat.pow 2 shift) = s
  have power : ∀ k, 0 < Nat.pow 2 k := fun k => Nat.two_pow_pos k
  have within : significand * Nat.pow 2 shift < Nat.pow 2 (53 + s) := by
    rw [← surplus]
    exact lt_pow_surplusBits _
  have least : 0 < s → Nat.pow 2 (52 + s) ≤ significand * Nat.pow 2 shift := by
    intro some
    have nonzero : significand * Nat.pow 2 shift ≠ 0 := by
      intro zero
      rw [zero] at surplus
      rw [← surplus] at some
      exact absurd some (by decide)
    refine (Nat.le_log2 nonzero).mp ?_
    unfold surplusBits at surplus
    omega
  have divides : Nat.pow 2 s ∣ significand * Nat.pow 2 shift := by
    rcases Nat.eq_zero_or_pos s with rfl | some
    · exact one_dvd _
    · have longer : Nat.pow 2 (52 + s) < Nat.pow 2 (53 + shift) := calc
        Nat.pow 2 (52 + s) ≤ significand * Nat.pow 2 shift := least some
        _ < Nat.pow 2 53 * Nat.pow 2 shift := Nat.mul_lt_mul_of_pos_right bound (power shift)
        _ = Nat.pow 2 (53 + shift) := (pow_two_add 53 shift).symm
      have order : 52 + s < 53 + shift := (Nat.pow_lt_pow_iff_right (by decide)).mp longer
      exact Dvd.dvd.mul_left (Nat.pow_dvd_pow 2 (by omega)) significand
  refine ⟨(Nat.div_mul_cancel divides).symm, ?_, ?_⟩
  · rw [pow_two_add, Nat.mul_comm (Nat.pow 2 53)] at within
    exact Nat.div_lt_of_lt_mul within
  · intro some
    have least := least some
    rw [pow_two_add] at least
    exact (Nat.le_div_iff_mul_le (power s)).mpr least

/-- A quotient lies between the midpoints from a magnitude to its neighbours.  Below a power of two
the neighbour is only half as far as above; the midpoints themselves count if the significand is
even. -/
structure Nearest (n d significand shift : Nat) : Prop where
  low : 4 * (significand * (d * Nat.pow 2 shift)) ≤ 4 * n + 2 * (d * Nat.pow 2 shift)
  high : 4 * n ≤ 4 * (significand * (d * Nat.pow 2 shift)) + 2 * (d * Nat.pow 2 shift)
  odd : significand % 2 = 1 →
    4 * (significand * (d * Nat.pow 2 shift)) < 4 * n + 2 * (d * Nat.pow 2 shift) ∧
      4 * n < 4 * (significand * (d * Nat.pow 2 shift)) + 2 * (d * Nat.pow 2 shift)
  narrow : 0 < shift → significand = Nat.pow 2 52 →
    4 * (significand * (d * Nat.pow 2 shift)) ≤ 4 * n + d * Nat.pow 2 shift

/-- The surplus bits of a quotient, by the binade that it lies in. -/
theorem surplusBits_div {n d s : Nat} (positive : 0 < d)
    (low : 0 < s → Nat.pow 2 52 * (d * Nat.pow 2 s) ≤ n)
    (high : n < Nat.pow 2 53 * (d * Nat.pow 2 s)) : surplusBits (n / d) = s := by
  have expand : ∀ k, Nat.pow 2 k * (d * Nat.pow 2 s) = d * Nat.pow 2 (k + s) := by
    intro k
    rw [pow_two_add]
    ring
  have below : n / d < Nat.pow 2 (53 + s) := Nat.div_lt_of_lt_mul (expand 53 ▸ high)
  rcases Nat.eq_zero_or_pos s with rfl | some
  · exact surplusBits_eq_zero below
  · refine surplusBits_eq ((Nat.le_div_iff_mul_le positive).mpr ?_) below
    rw [Nat.mul_comm, ← expand 52]
    exact low some

/-- **A quotient that is nearest to a magnitude is rounded to it.** -/
theorem Nearest.roundUnits_eq {n d units m s : Nat} (positive : 0 < d)
    (canonical : Canonical units m s) (nearest : Nearest n d m s) : roundUnits n d = units := by
  obtain ⟨low, high, odd, narrow⟩ := nearest
  by_cases least : 0 < s → Nat.pow 2 52 * (d * Nat.pow 2 s) ≤ n
  · have steps : 0 < d * Nat.pow 2 s := Nat.mul_pos positive (Nat.two_pow_pos s)
    have below : n < Nat.pow 2 53 * (d * Nat.pow 2 s) := by
      have fits : (m + 1) * (d * Nat.pow 2 s) ≤ Nat.pow 2 53 * (d * Nat.pow 2 s) :=
        Nat.mul_le_mul_right _ canonical.lt
      rw [Nat.succ_mul] at fits
      omega
    have rounded : roundQuotient n (d * Nat.pow 2 s) = m := by
      refine roundQuotient_eq steps (by omega) (by omega) fun isOdd => ?_
      obtain ⟨below, above⟩ := odd isOdd
      exact ⟨by omega, by omega⟩
    unfold roundUnits
    simp only [surplusBits_div positive least below, rounded]
    exact canonical.eq.symm
  · -- The quotient lies in the binade below: its step is half as wide, and the magnitude is the
    -- power of two at the upper end.
    rw [Classical.not_imp, Nat.not_le] at least
    obtain ⟨some, less⟩ := least
    have full := canonical.full some
    obtain ⟨k, rfl⟩ : ∃ k, s = k + 1 := ⟨s - 1, by omega⟩
    have steps : 0 < d * Nat.pow 2 k := Nat.mul_pos positive (Nat.two_pow_pos k)
    have half : d * Nat.pow 2 (k + 1) = 2 * (d * Nat.pow 2 k) := by
      rw [pow_two_add]
      change d * (Nat.pow 2 k * 2) = _
      ring
    rw [half] at low less narrow
    have power : m = Nat.pow 2 52 := by
      by_contra other
      have more : (Nat.pow 2 52 + 1) * (2 * (d * Nat.pow 2 k)) ≤ m * (2 * (d * Nat.pow 2 k)) :=
        Nat.mul_le_mul_right _ (by omega)
      rw [Nat.succ_mul] at more
      omega
    have doubled : Nat.pow 2 53 * (d * Nat.pow 2 k) = 2 * (Nat.pow 2 52 * (d * Nat.pow 2 k)) :=
      Nat.mul_assoc 2 (Nat.pow 2 52) _
    rw [Nat.mul_left_comm (Nat.pow 2 52), ← doubled] at less
    have near := narrow some power
    rw [power, Nat.mul_left_comm (Nat.pow 2 52), ← doubled] at near
    have wide : d * Nat.pow 2 k ≤ Nat.pow 2 52 * (d * Nat.pow 2 k) :=
      Nat.le_mul_of_pos_left _ (by decide)
    have surplus : surplusBits (n / d) = k := surplusBits_div positive (fun _ => by omega) less
    have rounded : roundQuotient n (d * Nat.pow 2 k) = Nat.pow 2 53 := by
      refine roundQuotient_eq steps (by omega) (by omega) fun isOdd => ?_
      exact absurd isOdd (by decide)
    unfold roundUnits
    simp only [surplus, rounded]
    rw [canonical.eq, power, ← pow_two_add, ← pow_two_add]
    congr 1
    omega

theorem Binary64.ofQuotient_eq (negative : Bool) {n d units : Nat} (fits : FitsBinary64 units)
    (rounded : roundUnits n d = units) :
    Binary64.ofQuotient negative n d = .finite negative units fits := by
  subst rounded
  exact dif_pos fits.1

/-! ## 2. Decimals that read back -/

namespace Decimal

theorem width_le_iff {n k : Nat} (nonzero : n ≠ 0) (positive : 0 < k) :
    width n ≤ k ↔ n < Nat.pow 10 k := by
  rw [width, if_neg nonzero]
  exact Nat.length_toDigits_le_iff (by decide) positive

/-- A positive number has as many digits as its size says. -/
theorem width_bounds {n : Nat} (nonzero : n ≠ 0) :
    Nat.pow 10 (width n - 1) ≤ n ∧ n < Nat.pow 10 (width n) := by
  have positive : 0 < width n := by
    rw [width, if_neg nonzero]
    exact Nat.length_toDigits_pos
  refine ⟨?_, (width_le_iff nonzero positive).mp (Nat.le_refl _)⟩
  rcases Nat.eq_zero_or_pos (width n - 1) with one | more
  · rw [one]
    exact Nat.one_le_iff_ne_zero.mpr nonzero
  · by_contra less
    have := (width_le_iff nonzero more).mpr (Nat.lt_of_not_le less)
    omega

variable {units : Nat} {d e : Decimal}

/-- The numerator of a decimal in units. -/
def numerator (d : Decimal) : Nat := d.digits * Nat.pow 10 d.exponent.toNat * unitsPerOne

/-- The denominator of a decimal in units. -/
def denominator (d : Decimal) : Nat := Nat.pow 10 (-d.exponent).toNat

theorem denominator_pos (d : Decimal) : 0 < d.denominator := Nat.pow_pos (by decide)

theorem quarters_eq (d : Decimal) : d.quarters = (4 * d.numerator, d.denominator) := by
  simp only [quarters, numerator, denominator, Nat.mul_assoc]

/-- **A decimal that reads back is nearest to the magnitude.** -/
theorem nearest_of_readsBack (fits : FitsBinary64 units) (h : readsBack units d = true) :
    Nearest d.numerator d.denominator (units / Nat.pow 2 (surplusBits units))
      (surplusBits units) := by
  have canonical := canonical_of_fits fits
  unfold readsBack interval at h
  simp only [quarters_eq] at h
  generalize surplusBits units = s at *
  generalize units / Nat.pow 2 s = m at *
  obtain ⟨rfl, -, -⟩ := canonical
  have cancel : m * Nat.pow 2 s = Nat.pow 2 52 * Nat.pow 2 s ↔ m = Nat.pow 2 52 :=
    Nat.mul_left_inj (Nat.two_pow_pos s).ne'
  -- All bounds are multiples of the step, measured by the denominator.
  have centre : 4 * (m * Nat.pow 2 s) * d.denominator =
      4 * (m * (d.denominator * Nat.pow 2 s)) := by ring
  have step : Nat.pow 2 s * d.denominator = d.denominator * Nat.pow 2 s := Nat.mul_comm ..
  have steps : 2 * Nat.pow 2 s * d.denominator = 2 * (d.denominator * Nat.pow 2 s) := by ring
  simp only [cancel, Nat.sub_mul, Nat.add_mul, ite_mul, centre, step, steps] at h
  split at h
  · rename_i even
    simp only [Bool.and_eq_true, decide_eq_true_eq] at h
    obtain ⟨low, high⟩ := h
    split at low
    · exact ⟨by omega, high, by omega, fun _ _ => by omega⟩
    · rename_i wide
      exact ⟨by omega, high, by omega, fun some power => absurd ⟨some, power⟩ wide⟩
  · rename_i odd
    simp only [Bool.and_eq_true, decide_eq_true_eq] at h
    obtain ⟨low, high⟩ := h
    split at low
    · exact ⟨by omega, by omega, fun _ => ⟨by omega, high⟩, fun _ _ => by omega⟩
    · rename_i wide
      exact ⟨by omega, by omega, fun _ => ⟨by omega, high⟩,
        fun some power => absurd ⟨some, power⟩ wide⟩

/-- Decimals far below the least magnitude are not a unit. -/
theorem numerator_lt_of_leading (small : (width d.digits : Int) + d.exponent < -400)
    (nonzero : d.digits ≠ 0) : 2 * d.numerator < d.denominator := by
  have whole : d.exponent.toNat = 0 := by omega
  have digits := (width_bounds nonzero).2
  obtain ⟨k, within, size⟩ : ∃ k ≤ 401, 2 * unitsPerOne ≤ Nat.pow 10 k :=
    ⟨324, by decide, by decide +kernel⟩
  have far : width d.digits + k ≤ (-d.exponent).toNat := by omega
  unfold numerator denominator
  rw [whole]
  calc 2 * (d.digits * Nat.pow 10 0 * unitsPerOne)
      = d.digits * (2 * unitsPerOne) := by
        change 2 * (d.digits * 1 * unitsPerOne) = _
        ring
    _ ≤ d.digits * Nat.pow 10 k := Nat.mul_le_mul_left _ size
    _ < Nat.pow 10 (width d.digits) * Nat.pow 10 k :=
        Nat.mul_lt_mul_of_pos_right digits (Nat.pow_pos (by decide))
    _ = Nat.pow 10 (width d.digits + k) := (Nat.pow_add 10 _ _).symm
    _ ≤ Nat.pow 10 (-d.exponent).toNat := Nat.pow_le_pow_right (by decide) far

/-- Decimals far above the greatest magnitude are beyond all of them. -/
theorem le_numerator_of_leading (large : 400 < (width d.digits : Int) + d.exponent)
    (nonzero : d.digits ≠ 0) : 2 * unitsLimit * d.denominator ≤ d.numerator := by
  have digits := (width_bounds nonzero).1
  obtain ⟨k, within, size⟩ : ∃ k ≤ 400, 2 * unitsLimit ≤ Nat.pow 10 k * unitsPerOne :=
    ⟨309, by decide, by decide +kernel⟩
  have far : k + (-d.exponent).toNat ≤ width d.digits - 1 + d.exponent.toNat := by omega
  unfold numerator denominator
  calc 2 * unitsLimit * Nat.pow 10 (-d.exponent).toNat
      ≤ Nat.pow 10 k * unitsPerOne * Nat.pow 10 (-d.exponent).toNat :=
        Nat.mul_le_mul_right _ size
    _ = Nat.pow 10 k * Nat.pow 10 (-d.exponent).toNat * unitsPerOne := by ring
    _ = Nat.pow 10 (k + (-d.exponent).toNat) * unitsPerOne :=
        congrArg (· * unitsPerOne) (Nat.pow_add 10 _ _).symm
    _ ≤ Nat.pow 10 (width d.digits - 1 + d.exponent.toNat) * unitsPerOne :=
        Nat.mul_le_mul_right _ (Nat.pow_le_pow_right (by decide) far)
    _ = Nat.pow 10 (width d.digits - 1) * Nat.pow 10 d.exponent.toNat * unitsPerOne :=
        congrArg (· * unitsPerOne) (Nat.pow_add 10 _ _)
    _ ≤ d.digits * Nat.pow 10 d.exponent.toNat * unitsPerOne :=
        Nat.mul_le_mul_right _ (Nat.mul_le_mul_right _ digits)

/-- **A decimal that reads back is read as the magnitude.** -/
theorem toBinary64_of_readsBack (negative : Bool) (positive : 0 < units)
    (fits : FitsBinary64 units) (h : readsBack units d = true) :
    toBinary64 negative d = .finite negative units fits := by
  have nearest := nearest_of_readsBack fits h
  have canonical := canonical_of_fits fits
  have rounded : roundUnits d.numerator d.denominator = units :=
    nearest.roundUnits_eq d.denominator_pos canonical
  generalize surplusBits units = s at *
  generalize units / Nat.pow 2 s = m at *
  -- The value lies between half a unit and twice the limit.
  have significand : 0 < m := by
    refine Nat.pos_of_ne_zero fun none => ?_
    have := canonical.eq
    rw [none, Nat.zero_mul] at this
    omega
  have step : d.denominator ≤ d.denominator * Nat.pow 2 s :=
    Nat.le_mul_of_pos_right _ (Nat.two_pow_pos s)
  have least : d.denominator * Nat.pow 2 s ≤ m * (d.denominator * Nat.pow 2 s) :=
    Nat.le_mul_of_pos_left _ significand
  have size : m * (d.denominator * Nat.pow 2 s) = units * d.denominator := by
    rw [canonical.eq]
    ring
  have limit : units * d.denominator < unitsLimit * d.denominator :=
    Nat.mul_lt_mul_of_pos_right fits.1 d.denominator_pos
  have low := nearest.low
  have high := nearest.high
  have nonzero : d.digits ≠ 0 := by
    intro zero
    have none : d.numerator = 0 := by simp [numerator, zero]
    have := d.denominator_pos
    omega
  have notSmall : ¬ ((width d.digits : Int) + d.exponent < -400) := fun small => by
    have := numerator_lt_of_leading small nonzero
    omega
  have notLarge : ¬ (400 < (width d.digits : Int) + d.exponent) := fun large => by
    have := le_numerator_of_leading large nonzero
    rw [Nat.mul_assoc] at this
    omega
  unfold toBinary64
  simp only [nonzero, notSmall, notLarge, or_self, if_false]
  exact Binary64.ofQuotient_eq negative fits rounded

/-! ## 3. The shortest decimal -/

/-- Decimals of one value read back to the same magnitudes. -/
theorem readsBack_congr (same : d.numerator * e.denominator = e.numerator * d.denominator) :
    readsBack units d = readsBack units e := by
  have dpos := d.denominator_pos
  have epos := e.denominator_pos
  have le : ∀ k, k * d.denominator ≤ 4 * d.numerator ↔ k * e.denominator ≤ 4 * e.numerator := by
    intro k
    rw [← Nat.mul_le_mul_right_iff epos, ← Nat.mul_le_mul_right_iff (n := k * e.denominator) dpos,
      Nat.mul_right_comm, Nat.mul_assoc 4, same, ← Nat.mul_assoc 4]
  have ge : ∀ k, 4 * d.numerator ≤ k * d.denominator ↔ 4 * e.numerator ≤ k * e.denominator := by
    intro k
    rw [← Nat.mul_le_mul_right_iff epos, ← Nat.mul_le_mul_right_iff (n := 4 * e.numerator) dpos,
      Nat.mul_right_comm k, Nat.mul_assoc 4, same, ← Nat.mul_assoc 4]
  have lt : ∀ k, k * d.denominator < 4 * d.numerator ↔ k * e.denominator < 4 * e.numerator := by
    intro k
    rw [← Nat.not_le, ge, Nat.not_le]
  have gt : ∀ k, 4 * d.numerator < k * d.denominator ↔ 4 * e.numerator < k * e.denominator := by
    intro k
    rw [← Nat.not_le, le, Nat.not_le]
  unfold readsBack
  simp only [quarters_eq, le, ge, lt, gt]

/-- A decimal that is found on a grid reads back: it is one of the two neighbours, also where both
of them do. -/
theorem readsBack_onGrid {exponent : Int} (h : onGrid? units exponent = some d) :
    readsBack units d = true := by
  unfold onGrid? at h
  simp only at h
  split at h
  · rename_i floor above
    rw [← Option.some.inj h]
    rcases roundQuotient_mem (units * Nat.pow 10 (-exponent).toNat)
      (unitsPerOne * Nat.pow 10 exponent.toNat) with down | up
    · rw [down]
      exact floor
    · rw [up]
      exact above
  · rename_i floor above
    rw [← Option.some.inj h]
    exact floor
  · rename_i floor above
    rw [← Option.some.inj h]
    exact above
  · contradiction

/-- Moving a zero into the exponent does not change the value. -/
theorem numerator_mul_denominator (q : Nat) (exponent : Int) :
    numerator ⟨q, exponent + 1⟩ * denominator ⟨10 * q, exponent⟩ =
      numerator ⟨10 * q, exponent⟩ * denominator ⟨q, exponent + 1⟩ := by
  unfold numerator denominator
  simp only
  rcases Int.lt_or_le exponent 0 with below | above
  · obtain ⟨k, rfl⟩ : ∃ k : Nat, exponent = -(k + 1 : Nat) := ⟨(-exponent - 1).toNat, by omega⟩
    have e1 : (-((k + 1 : Nat) : Int) + 1).toNat = 0 := by omega
    have e2 : (-((k + 1 : Nat) : Int)).toNat = 0 := by omega
    have e3 : (- -((k + 1 : Nat) : Int)).toNat = k + 1 := by omega
    have e4 : (-(-((k + 1 : Nat) : Int) + 1)).toNat = k := by omega
    have power : Nat.pow 10 (k + 1) = Nat.pow 10 k * 10 := rfl
    rw [e1, e2, e3, e4, power]
    ring
  · obtain ⟨k, rfl⟩ := Int.eq_ofNat_of_zero_le above
    have e1 : ((k : Int) + 1).toNat = k + 1 := by omega
    have e2 : (-(k : Int)).toNat = 0 := by omega
    have e3 : (-((k : Int) + 1)).toNat = 0 := by omega
    have power : Nat.pow 10 (k + 1) = Nat.pow 10 k * 10 := rfl
    rw [e1, e2, e3, Int.toNat_natCast, power]
    ring

theorem readsBack_stripZeros (h : readsBack units d = true) :
    readsBack units (stripZeros d) = true := by
  fun_induction stripZeros d with
  | case1 d zero ih =>
    obtain ⟨digits, exponent⟩ := d
    have whole : digits % 10 = 0 := zero.2
    obtain ⟨q, rfl⟩ : ∃ q, digits = 10 * q := ⟨digits / 10, by omega⟩
    have half : 10 * q / 10 = q := Nat.mul_div_cancel_left q (by decide)
    apply ih
    rw [← h]
    simp only [half]
    exact readsBack_congr (numerator_mul_denominator q exponent)
  | case2 d full => exact h

/-- A magnitude is among the reals that read as it. -/
theorem readsBack_of_eq (positive : 0 < units) (exact : d.numerator = units * d.denominator) :
    readsBack units d = true := by
  have whole : 4 * d.numerator = 4 * units * d.denominator := by
    rw [exact, Nat.mul_assoc]
  have step : 0 < Nat.pow 2 (surplusBits units) := Nat.two_pow_pos _
  have less : ∀ below, 0 < below → (4 * units - below) * d.denominator < 4 * d.numerator := by
    intro below some
    rw [whole]
    exact Nat.mul_lt_mul_of_pos_right (by omega) d.denominator_pos
  have more : 4 * d.numerator <
      (4 * units + 2 * Nat.pow 2 (surplusBits units)) * d.denominator := by
    rw [whole]
    exact Nat.mul_lt_mul_of_pos_right (by omega) d.denominator_pos
  have less := less (if 0 < surplusBits units ∧
    units = Nat.pow 2 52 * Nat.pow 2 (surplusBits units) then Nat.pow 2 (surplusBits units)
    else 2 * Nat.pow 2 (surplusBits units)) (by split <;> omega)
  unfold readsBack interval
  simp only [quarters_eq]
  split
  · simp only [Bool.and_eq_true, decide_eq_true_eq]
    exact ⟨Nat.le_of_lt less, Nat.le_of_lt more⟩
  · simp only [Bool.and_eq_true, decide_eq_true_eq]
    exact ⟨less, more⟩

/-- A magnitude in units is itself a decimal, with many digits. -/
theorem numerator_of_units (units k : Nat) :
    units * Nat.pow 5 k * Nat.pow 2 k = units * Nat.pow 10 k := by
  rw [Nat.mul_assoc]
  exact congrArg (units * ·) (Nat.mul_pow 5 2 k).symm

/-- **The shortest decimal reads back.** -/
theorem readsBack_shortest (positive : 0 < units) : readsBack units (shortest units) = true := by
  unfold shortest
  simp only
  apply readsBack_stripZeros
  cases found : ((List.range 17).map fun n => scale units - (n + 1 : Nat)).findSome?
    (onGrid? units) with
  | some d =>
    obtain ⟨exponent, -, found⟩ := List.exists_of_findSome?_eq_some found
    exact readsBack_onGrid found
  | none =>
    apply readsBack_of_eq positive
    have whole : (-1074 : Int).toNat = 0 := rfl
    have places : (- -1074 : Int).toNat = 1074 := rfl
    unfold numerator denominator unitsPerOne
    have one : Nat.pow 10 0 = 1 := rfl
    simp only [Option.getD_none, whole, places, one, Nat.mul_one]
    generalize 1074 = k
    exact numerator_of_units units k

/-- **Whatever has the value of the shortest decimal is read as the double.** -/
theorem toBinary64_of_same (negative : Bool) (positive : 0 < units) (fits : FitsBinary64 units)
    (same : d.numerator * (shortest units).denominator =
      (shortest units).numerator * d.denominator) :
    toBinary64 negative d = .finite negative units fits :=
  toBinary64_of_readsBack negative positive fits
    ((readsBack_congr same).trans (readsBack_shortest positive))

/-- The shortest decimal of a positive magnitude has some digits. -/
theorem digits_shortest_ne_zero (positive : 0 < units) (fits : FitsBinary64 units) :
    (shortest units).digits ≠ 0 := by
  intro zero
  have read := toBinary64_of_same false positive fits (d := shortest units) rfl
  unfold toBinary64 at read
  rw [if_pos (.inl zero)] at read
  have none : 0 = units := (Binary64.finite.inj read).2
  omega

end Decimal

end Gamebook

/-
# Rounding keeps the order

A double is made by rounding an exact quotient once.  Rounding keeps the order of the quotients
(`roundUnits_mono`) and leaves a magnitude that fits as it is (`roundUnits_of_fits`).

So integers become doubles in their order, and products of positive numbers are in the order of
their factors, whatever their kinds (`le_or_one_le_of_mul`): all but one case are a product of
rounded numbers that is rounded again.  The exception is a product of two integers, which is not
rounded at all; next to a product of doubles all that is said of it is that both are at least one.
-/
import Gamebook.Proofs.Fault
import Gamebook.Proofs.Number.Line
import Gamebook.Proofs.Number.ReadBack

namespace Gamebook

/-! ## 1. Magnitudes -/

section

variable {m n d units : Nat}

/-- Quotients by the same denominator are rounded in their order. -/
theorem roundQuotient_mono (d : Nat) (le : m ≤ n) : roundQuotient m d ≤ roundQuotient n d := by
  have floors : m / d ≤ n / d := Nat.div_le_div_right le
  rcases Nat.lt_or_ge (m / d) (n / d) with less | more
  · have below := roundQuotient_le m d
    rcases roundQuotient_mem n d with floor | above <;> omega
  · -- Both lie between the same two neighbours, and the remainders decide.
    have same : m / d = n / d := Nat.le_antisymm floors more
    have rest : m % d ≤ n % d := by
      have first := Nat.div_add_mod m d
      have second := Nat.div_add_mod n d
      rw [same] at first
      omega
    unfold roundQuotient
    simp only [same]
    repeat' split
    all_goals omega

theorem surplusBits_mono (le : m ≤ n) : surplusBits m ≤ surplusBits n := by
  have logs : m.log2 ≤ n.log2 := by
    rcases Nat.eq_zero_or_pos m with rfl | positive
    · exact Nat.zero_le _
    · exact (Nat.le_log2 (by omega)).mpr (Nat.le_trans (Nat.log2_self_le (by omega)) le)
  unfold surplusBits
  omega

/-- A number with surplus bits has all its 53 leading ones. -/
theorem pow_surplusBits_le (some : 0 < surplusBits n) : Nat.pow 2 (52 + surplusBits n) ≤ n := by
  have nonzero : n ≠ 0 := by
    rintro rfl
    exact absurd some (by decide)
  refine (Nat.le_log2 nonzero).mp ?_
  unfold surplusBits at some ⊢
  omega

/-- **Rounding keeps the order.** -/
theorem roundUnits_mono (positive : 0 < d) (le : m ≤ n) : roundUnits m d ≤ roundUnits n d := by
  have bits : surplusBits (m / d) ≤ surplusBits (n / d) :=
    surplusBits_mono (Nat.div_le_div_right le)
  rcases Nat.lt_or_ge (surplusBits (m / d)) (surplusBits (n / d)) with less | more
  · -- A power of two lies in between.
    have steps (k : Nat) : 0 < d * Nat.pow 2 k := Nat.mul_pos positive (Nat.two_pow_pos k)
    have below : roundQuotient m (d * Nat.pow 2 (surplusBits (m / d))) ≤ Nat.pow 2 53 := by
      have within := lt_pow_surplusBits (m / d)
      rw [pow_two_add, Nat.mul_comm (Nat.pow 2 53)] at within
      have floor : m / (d * Nat.pow 2 (surplusBits (m / d))) < Nat.pow 2 53 := by
        rw [← Nat.div_div_eq_div_mul]
        exact Nat.div_lt_of_lt_mul within
      exact Nat.le_trans (roundQuotient_le _ _) floor
    have above : Nat.pow 2 52 ≤ roundQuotient n (d * Nat.pow 2 (surplusBits (n / d))) := by
      have least := pow_surplusBits_le (n := n / d) (by omega)
      rw [pow_two_add] at least
      have floor : Nat.pow 2 52 ≤ n / (d * Nat.pow 2 (surplusBits (n / d))) := by
        rw [← Nat.div_div_eq_div_mul]
        exact (Nat.le_div_iff_mul_le (Nat.two_pow_pos _)).mpr least
      rcases roundQuotient_mem n (d * Nat.pow 2 (surplusBits (n / d))) with down | up <;> omega
    calc roundUnits m d
        ≤ Nat.pow 2 53 * Nat.pow 2 (surplusBits (m / d)) := Nat.mul_le_mul_right _ below
      _ = Nat.pow 2 (53 + surplusBits (m / d)) := (pow_two_add _ _).symm
      _ ≤ Nat.pow 2 (52 + surplusBits (n / d)) := Nat.pow_le_pow_right (by decide) (by omega)
      _ = Nat.pow 2 52 * Nat.pow 2 (surplusBits (n / d)) := pow_two_add _ _
      _ ≤ roundUnits n d := Nat.mul_le_mul_right _ above
  · have same := Nat.le_antisymm bits more
    unfold roundUnits
    simp only [same]
    exact Nat.mul_le_mul_right _ (roundQuotient_mono _ le)

/-- **A magnitude that fits is not rounded.** -/
theorem roundUnits_of_fits (positive : 0 < d) (fits : FitsBinary64 units) :
    roundUnits (units * d) d = units := by
  have canonical := canonical_of_fits fits
  generalize surplusBits units = s at canonical
  generalize units / Nat.pow 2 s = significand at canonical
  have exact : units * d = significand * (d * Nat.pow 2 s) := by
    rw [canonical.eq]
    ring
  have step : 0 < d * Nat.pow 2 s := Nat.mul_pos positive (Nat.two_pow_pos s)
  refine Nearest.roundUnits_eq positive canonical ?_
  rw [exact]
  exact ⟨by omega, by omega, fun _ => by omega, fun _ _ => by omega⟩

theorem roundUnits_zero (positive : 0 < d) : roundUnits 0 d = 0 := by
  have exact := roundUnits_of_fits positive Binary64.zero_fits
  rwa [Nat.zero_mul] at exact

theorem unitsPerOne_fits : FitsBinary64 unitsPerOne :=
  ⟨by decide +kernel, 1, 1074, by decide, by decide +kernel⟩

end

/-! ## 2. Numbers -/

namespace Number

variable {a a' b c c' : Number} {k k' j : Int}

/-- Numbers that are related have their places on the line. -/
theorem onLine_of_related {r : Position → Position → Bool} (holds : related r a b = true) :
    ∃ x y, a.onLine? = some x ∧ b.onLine? = some y := by
  cases first : a.position with
  | none => simp [related, first] at holds
  | some p =>
    cases second : b.position with
    | none => simp [related, first, second] at holds
    | some q =>
      refine ⟨p.onLine, q.onLine, ?_, ?_⟩
      · rw [onLine?_eq, first, Option.map_some]
      · rw [onLine?_eq, second, Option.map_some]

theorem lt_eq_true_iff :
    a.lt b = true ↔ ∃ x y, a.onLine? = some x ∧ b.onLine? = some y ∧ x < y := by
  constructor
  · intro less
    obtain ⟨x, y, left, right⟩ := onLine_of_related less
    exact ⟨x, y, left, right, (lt_iff left right).mp less⟩
  · rintro ⟨x, y, left, right, less⟩
    exact (lt_iff left right).mpr less

theorem le_eq_true_iff :
    a.le b = true ↔ ∃ x y, a.onLine? = some x ∧ b.onLine? = some y ∧ x ≤ y := by
  constructor
  · intro le
    obtain ⟨x, y, left, right⟩ := onLine_of_related le
    exact ⟨x, y, left, right, (le_iff left right).mp le⟩
  · rintro ⟨x, y, left, right, le⟩
    exact (le_iff left right).mpr le

theorem le_of_lt (less : a.lt b = true) : a.le b = true := by
  obtain ⟨x, y, left, right, less⟩ := lt_eq_true_iff.mp less
  exact le_eq_true_iff.mpr ⟨x, y, left, right, less.le⟩

theorem lt_trans (first : a.lt b = true) (second : b.lt c = true) : a.lt c = true := by
  obtain ⟨x, y, left, middle, first⟩ := lt_eq_true_iff.mp first
  obtain ⟨y', z, middle', right, second⟩ := lt_eq_true_iff.mp second
  obtain rfl := Option.some.inj (middle.symm.trans middle')
  exact lt_eq_true_iff.mpr ⟨x, z, left, right, first.trans second⟩

theorem lt_of_lt_of_le (less : a.lt b = true) (le : b.le c = true) : a.lt c = true := by
  obtain ⟨x, y, left, middle, less⟩ := lt_eq_true_iff.mp less
  obtain ⟨y', z, middle', right, le⟩ := le_eq_true_iff.mp le
  obtain rfl := Option.some.inj (middle.symm.trans middle')
  exact lt_eq_true_iff.mpr ⟨x, z, left, right, less.trans_le le⟩

theorem le_trans (first : a.le b = true) (second : b.le c = true) : a.le c = true := by
  obtain ⟨x, y, left, middle, first⟩ := le_eq_true_iff.mp first
  obtain ⟨y', z, middle', right, second⟩ := le_eq_true_iff.mp second
  obtain rfl := Option.some.inj (middle.symm.trans middle')
  exact le_eq_true_iff.mpr ⟨x, z, left, right, first.trans second⟩

theorem lt_of_at (first : a.position = some (.at k)) (second : b.position = some (.at j)) :
    a.lt b = true ↔ k < j := by
  simp [lt, related, first, second, Position.lt]

theorem le_of_at (first : a.position = some (.at k)) (second : b.position = some (.at j)) :
    a.le b = true ↔ k ≤ j := by
  simp [le, related, first, second, Position.lt]

theorem unit_pos : (0 : Int) < unitsPerOne := by exact_mod_cast unitsPerOne_pos

theorem int_at (n : Int) : (int n).position = some (.at (n * unitsPerOne)) := rfl

theorem eq_of_int_at {n : Int} (place : (int n).position = some (.at k)) :
    n * unitsPerOne = k :=
  Position.at.inj (Option.some.inj ((int_at n).symm.trans place))

theorem zero_at : Number.zero.position = some (.at 0) := by
  rw [Number.zero, int_at, Int.zero_mul]

theorem zero_lt_one : Number.zero.lt (int 1) = true := by
  rw [lt_of_at zero_at (int_at 1), Int.one_mul]
  exact unit_pos

/-- Zero is not above zero, of whatever kind. -/
theorem not_zero_lt_zero : Number.zero.lt (double (.zero false)) = false := by
  have place : (double (.zero false)).position = some (.at 0) := rfl
  rw [← Bool.not_eq_true, lt_of_at zero_at place]
  exact Int.lt_irrefl 0

/-- **A number that is neither NaN nor infinite**: it has a place on the line. -/
def Finite (a : Number) : Prop := ∃ units, a.position = some (.at units)

/-- Where a rounded quotient lies. -/
theorem position_ofQuotient (negative : Bool) (n d : Nat) :
    (double (.ofQuotient negative n d)).position =
      if roundUnits n d < unitsLimit then
        some (.at (Binary64.signedUnits negative (roundUnits n d)))
      else some (if negative then .below else .above) := by
  unfold Binary64.ofQuotient
  split <;> rfl

theorem isNaN_ofQuotient (negative : Bool) (n d : Nat) :
    (double (.ofQuotient negative n d)).isNaN = false := by
  unfold Binary64.ofQuotient
  split <;> rfl

/-- Doubles of quotients are in the order of the quotients. -/
theorem ofQuotient_le {m n d : Nat} (positive : 0 < d) (le : m ≤ n) :
    (double (.ofQuotient false m d)).le (double (.ofQuotient false n d)) = true := by
  have rounded := roundUnits_mono positive le
  have first := position_ofQuotient false m d
  have second := position_ofQuotient false n d
  rcases Nat.lt_or_ge (roundUnits n d) unitsLimit with within | beyond
  · rw [if_pos within] at second
    rw [if_pos (Nat.lt_of_le_of_lt rounded within)] at first
    rw [le_of_at first second]
    simpa [Binary64.signedUnits] using rounded
  · rw [if_neg (Nat.not_lt.mpr beyond)] at second
    have last : (double (.ofQuotient false n d)).onLine? = some ⊤ := by
      rw [onLine?_eq, second]
      rfl
    obtain ⟨x, found⟩ := exists_onLine (isNaN_ofQuotient false m d)
    exact le_eq_true_iff.mpr ⟨x, ⊤, found, last, le_top⟩

/-- **The double of a number that has a place** has the rounded magnitude of that place. -/
theorem toBinary64_at {x : Binary64} (place : a.position = some (.at k))
    (near : a.toBinary64 = .ok x) :
    ∃ negative fits, x = .finite negative (roundUnits k.natAbs 1) fits ∧
      (0 < k → negative = false) ∧ (k < 0 → negative = true) := by
  cases a with
  | double y =>
    obtain rfl := Except.ok.inj near
    cases y with
    | infinite negative =>
      cases negative <;> cases place
    | nan => cases place
    | finite negative units fits =>
      have exact : roundUnits units 1 = units := by
        have := roundUnits_of_fits Nat.one_pos fits
        rwa [Nat.mul_one] at this
      obtain rfl : Binary64.signedUnits negative units = k := by
        simpa [position] using place
      have size : (Binary64.signedUnits negative units).natAbs = units := by
        unfold Binary64.signedUnits
        split <;> simp
      rw [size]
      refine ⟨negative, by rwa [exact], ?_, ?_, ?_⟩
      · simp [exact]
      · unfold Binary64.signedUnits
        cases negative <;> simp
      · unfold Binary64.signedUnits
        cases negative <;> simp
  | int n =>
    obtain rfl := eq_of_int_at place
    have found : Binary64.ofInt? n = some x := by
      unfold toBinary64 at near
      simp only at near
      split at near
      · rename_i y found
        rw [found, Except.ok.inj near]
      · cases near
    unfold Binary64.ofInt? Binary64.ofUnits Binary64.ofQuotient at found
    split at found
    · cases found
    · rename_i notInfinite
      split at found
      · rename_i fits
        refine ⟨_, _, (Option.some.inj found).symm, ?_, ?_⟩
        · intro positive
          exact decide_eq_false (Int.not_lt.mpr (Int.le_of_lt positive))
        · intro negative
          exact decide_eq_true negative
      · rename_i infinite
        exact absurd (dif_neg infinite) (notInfinite _)

/-! ## 3. Products -/

/-- A product of doubles of places is the rounded product of their rounded magnitudes. -/
def roundedProduct (k j : Int) : Nat := roundUnits k.natAbs 1 * roundUnits j.natAbs 1

/-- **A product with a place for each factor**: of two integers it is exact, and otherwise it is
one of doubles. -/
theorem mul_at (left : a.position = some (.at k)) (right : b.position = some (.at j))
    (product : a.mul b = .ok c) :
    (∃ m n, a = .int m ∧ b = .int n ∧ c = .int (m * n)) ∨
      ∃ s t, c = .double (.ofQuotient (s != t) (roundedProduct k j) unitsPerOne) ∧
        (0 < k → s = false) ∧ (k < 0 → s = true) ∧ (0 < j → t = false) ∧ (j < 0 → t = true) := by
  have mixed (done : (do return .double ((← a.toBinary64).mul (← b.toBinary64)) :
      Except Fault Number) = .ok c) :
      ∃ s t, c = .double (.ofQuotient (s != t) (roundedProduct k j) unitsPerOne) ∧
        (0 < k → s = false) ∧ (k < 0 → s = true) ∧ (0 < j → t = false) ∧ (j < 0 → t = true) := by
    obtain ⟨x, first, done⟩ := bind_ok_iff.mp done
    obtain ⟨y, second, done⟩ := bind_ok_iff.mp done
    obtain ⟨s, fits, rfl, above, below⟩ := toBinary64_at left first
    obtain ⟨t, fits', rfl, above', below'⟩ := toBinary64_at right second
    exact ⟨s, t, (Except.ok.inj done).symm, above, below, above', below'⟩
  cases a with
  | double x => exact .inr (mixed (by cases b <;> exact product))
  | int m =>
    cases b with
    | double y => exact .inr (mixed product)
    | int n => exact .inl ⟨m, n, rfl, rfl, (Except.ok.inj product).symm⟩

/-- A product of finite numbers is no NaN. -/
theorem isNaN_of_mul_at (left : a.position = some (.at k)) (right : b.position = some (.at j))
    (product : a.mul b = .ok c) : c.isNaN = false := by
  rcases mul_at left right product with ⟨m, n, -, -, rfl⟩ | ⟨s, t, rfl, -⟩
  · rfl
  · exact isNaN_ofQuotient _ _ _

/-- **Where a product by something that is not negative is positive, both factors are.** -/
theorem pos_of_mul_pos (left : a.position = some (.at k)) (right : b.position = some (.at j))
    (nonneg : 0 ≤ j) (product : a.mul b = .ok c) (positive : Number.zero.lt c = true) :
    0 < k ∧ 0 < j := by
  rcases mul_at left right product with
    ⟨m, n, rfl, rfl, rfl⟩ | ⟨s, t, rfl, -, below, above', -⟩
  · obtain rfl := eq_of_int_at left
    obtain rfl := eq_of_int_at right
    have whole : 0 < m * n * unitsPerOne := by
      rw [lt_of_at zero_at (int_at (m * n))] at positive
      exact positive
    have second : 0 < n := by
      refine lt_of_le_of_ne (nonneg_of_mul_nonneg_left nonneg unit_pos) ?_
      rintro rfl
      rw [Int.mul_zero, Int.zero_mul] at whole
      exact absurd whole (Int.lt_irrefl 0)
    have first : 0 < m := pos_of_mul_pos_left (pos_of_mul_pos_left whole unit_pos.le) second.le
    exact ⟨Int.mul_pos first unit_pos, Int.mul_pos second unit_pos⟩
  · have place := position_ofQuotient (s != t) (roundedProduct k j) unitsPerOne
    have factors : k ≠ 0 ∧ j ≠ 0 := by
      refine not_or.mp fun none => ?_
      have nothing : roundedProduct k j = 0 := by
        unfold roundedProduct
        rcases none with rfl | rfl
        · rw [Int.natAbs_zero, roundUnits_zero Nat.one_pos, Nat.zero_mul]
        · rw [Int.natAbs_zero, roundUnits_zero Nat.one_pos, Nat.mul_zero]
      rw [nothing] at place positive
      rw [roundUnits_zero unitsPerOne_pos, if_pos unitsLimit_pos] at place
      have less := (lt_of_at zero_at place).mp positive
      simp [Binary64.signedUnits] at less
    have second : 0 < j := by omega
    refine ⟨?_, second⟩
    by_contra notPositive
    rw [below (by omega), above' second, Bool.bne_false] at place positive
    -- The product of different signs is not to the right of zero.
    split at place
    · have less := (lt_of_at zero_at place).mp positive
      simp [Binary64.signedUnits] at less
      omega
    · simp [lt, related, zero_at, place, Position.lt] at positive

/-- A positive integer is at least one. -/
theorem one_le_of_int_at {m : Int} (place : (int m).position = some (.at k)) (positive : 0 < k) :
    1 ≤ m ∧ unitsPerOne ≤ k := by
  obtain rfl := eq_of_int_at place
  have whole : 0 < m := pos_of_mul_pos_left positive unit_pos.le
  exact ⟨whole, le_mul_of_one_le_left unit_pos.le whole⟩

/-- A product of positive numbers has no sign to think of. -/
theorem mul_of_pos (left : a.position = some (.at k)) (right : b.position = some (.at j))
    (positive : 0 < k) (factor : 0 < j) (product : a.mul b = .ok c) :
    (∃ m n, a = .int m ∧ b = .int n ∧ c = .int (m * n)) ∨
      c = .double (.ofQuotient false (roundedProduct k j) unitsPerOne) := by
  refine (mul_at left right product).imp_right ?_
  rintro ⟨s, t, rfl, above, -, above', -⟩
  rw [above positive, above' factor, Bool.bne_false]

theorem roundedProduct_mono {k k' j : Int} (positive : 0 < k) (le : k ≤ k') :
    roundedProduct k j ≤ roundedProduct k' j :=
  Nat.mul_le_mul_right _ (roundUnits_mono Nat.one_pos (by omega))

/-- Two factors from one on have a rounded product from one on. -/
theorem one_le_ofQuotient {k j : Int} (first : unitsPerOne ≤ k) (second : unitsPerOne ≤ j) :
    (int 1).le (double (.ofQuotient false (roundedProduct k j) unitsPerOne)) = true := by
  have least {i : Int} (above : unitsPerOne ≤ i) : unitsPerOne ≤ roundUnits i.natAbs 1 := by
    have exact := roundUnits_of_fits Nat.one_pos unitsPerOne_fits
    rw [Nat.mul_one] at exact
    calc unitsPerOne = roundUnits unitsPerOne 1 := exact.symm
      _ ≤ roundUnits i.natAbs 1 := roundUnits_mono Nat.one_pos (by omega)
  have square := Nat.mul_le_mul (least first) (least second)
  refine le_trans ?_ (ofQuotient_le unitsPerOne_pos square)
  have one := position_ofQuotient false (unitsPerOne * unitsPerOne) unitsPerOne
  rw [roundUnits_of_fits unitsPerOne_pos unitsPerOne_fits, if_pos unitsPerOne_fits.1] at one
  rw [le_of_at (int_at 1) one, Int.one_mul]
  exact Int.le_refl _

/-- **Larger factors have larger products.**  A product of two integers is not rounded, and beside
one of doubles all that is said is that the other product is at least one. -/
theorem le_or_one_le_of_mul (left : a.position = some (.at k)) (left' : a'.position = some (.at k'))
    (right : b.position = some (.at j)) (positive : 0 < k) (factor : 0 < j) (le : k ≤ k')
    (product : a.mul b = .ok c) (product' : a'.mul b = .ok c') :
    c.le c' = true ∨ (∃ n, b = .int n) ∧ (int 1).le c' = true := by
  have positive' := Int.lt_of_lt_of_le positive le
  have one {m n : Int} (first : 1 ≤ m) (second : 1 ≤ n) : (int 1).le (int (m * n)) = true := by
    rw [le_of_at (int_at 1) (int_at (m * n))]
    exact Int.mul_le_mul_of_nonneg_right (Int.mul_pos first second) (Int.natCast_nonneg _)
  rcases mul_of_pos left right positive factor product with ⟨m, n, rfl, rfl, rfl⟩ | rfl <;>
    rcases mul_of_pos left' right positive' factor product' with ⟨m', n', rfl, same, rfl⟩ | rfl
  · obtain rfl := Number.int.inj same
    have factors := (one_le_of_int_at right factor).1
    obtain rfl := eq_of_int_at left
    obtain rfl := eq_of_int_at left'
    left
    rw [le_of_at (int_at (m * n)) (int_at (m' * n)), Int.mul_right_comm m, Int.mul_right_comm m']
    exact Int.mul_le_mul_of_nonneg_right le (by omega)
  · exact .inr ⟨⟨n, rfl⟩, one_le_ofQuotient ((one_le_of_int_at left positive).2.trans le)
      (one_le_of_int_at right factor).2⟩
  · obtain rfl := same
    exact .inr ⟨⟨n', rfl⟩, one (one_le_of_int_at left' positive').1
      (one_le_of_int_at right factor).1⟩
  · exact .inl (ofQuotient_le unitsPerOne_pos (roundedProduct_mono positive le))

end Number
end Gamebook

/-
# The policy of endings

Risk and emotion decide which ending a story comes to, and one draw may.  This file settles what can
be relied on whatever the thresholds of a configuration are, NaN and the infinities included, in
`policy_resolve`.

* **Draws.**  One is taken if there is a chance of death, and none otherwise.  Whether it is deadly
  hangs on the risk and the draw alone (`isDeadly`).  A generator draws nothing from one on
  (`Source.draw_lt_one`).
* **Emotion.**  What is not deadly has a grade, and more emotion never has a lower one
  (`rank_gradeOf_le`): a threshold that is passed stays passed.
* **Risk.**  More risk is never less deadly to the same draw (`isDeadly_of_lt`).  The chance is
  capped and begins at a threshold, but what counts is that products are in the order of their
  factors (`Number.le_or_one_le_of_mul`).
-/
import Gamebook.Proofs.Ending
import Gamebook.Proofs.Number.Rounding

namespace Gamebook

/-! ## 1. Numbers under a cap -/

namespace Number

variable {a cap x : Number}

/-- **What is below a capped number** is below the cap and below the number. -/
theorem lt_capped_iff (number : x.isNaN = false) :
    a.lt (capped cap x) = true ↔ a.lt cap = true ∧ a.lt x = true := by
  unfold capped
  split
  · rename_i less
    exact ⟨fun below => ⟨lt_trans below less, below⟩, And.right⟩
  · rename_i more
    refine ⟨fun below => ⟨below, ?_⟩, And.left⟩
    obtain ⟨y, z, left, right, below⟩ := lt_eq_true_iff.mp below
    obtain ⟨w, found⟩ := exists_onLine number
    rw [lt_iff found right, not_lt] at more
    exact lt_eq_true_iff.mpr ⟨y, w, left, found, below.trans_le more⟩

/-- A capped number is the cap or below it. -/
theorem capped_cases (cap x : Number) : capped cap x = cap ∨ (capped cap x).lt cap = true := by
  unfold capped
  split
  · rename_i less
    exact .inr less
  · exact .inl rfl

end Number

/-! ## 2. Draws of a generator -/

namespace Source

/-- Two words give 53 bits. -/
theorem bits_lt (high low : UInt32) :
    (high >>> 5).toNat * Nat.pow 2 26 + (low >>> 6).toNat < Nat.pow 2 53 := by
  have upper : (high >>> 5).toNat < Nat.pow 2 27 := by
    rw [UInt32.toNat_shiftRight, Nat.shiftRight_eq_div_pow]
    exact Nat.div_lt_of_lt_mul high.toNat_lt
  have lower : (low >>> 6).toNat < Nat.pow 2 26 := by
    rw [UInt32.toNat_shiftRight, Nat.shiftRight_eq_div_pow]
    exact Nat.div_lt_of_lt_mul low.toNat_lt
  simp only [Nat.pow_eq] at *
  omega

/-- One is a power of two that leaves room for 53 bits. -/
theorem exists_unitsPerOne_eq : ∃ shift, unitsPerOne = Nat.pow 2 shift * Nat.pow 2 53 :=
  ⟨1021, by decide +kernel⟩

/-- **What a generator draws is below one**: its 53 bits are not rounded up. -/
theorem drawOf_lt_one (high low : UInt32) :
    (Number.double (drawOf high low)).lt (.int 1) = true := by
  have few := bits_lt high low
  unfold drawOf
  generalize (high >>> 5).toNat * Nat.pow 2 26 + (low >>> 6).toNat = n at few
  obtain ⟨shift, unit⟩ := exists_unitsPerOne_eq
  have less : n * Nat.pow 2 shift < unitsPerOne := by
    rw [unit, Nat.mul_comm]
    exact Nat.mul_lt_mul_of_pos_left few (Nat.two_pow_pos shift)
  have within := Nat.lt_trans less unitsPerOne_fits.1
  have exact : roundUnits (n * unitsPerOne) (Nat.pow 2 53) = n * Nat.pow 2 shift := by
    rw [unit, ← Nat.mul_assoc]
    exact roundUnits_of_fits (Nat.two_pow_pos 53) ⟨within, n, shift, few, rfl⟩
  have place := Number.position_ofQuotient false (n * unitsPerOne) (Nat.pow 2 53)
  rw [exact, if_pos within] at place
  rw [Number.lt_of_at place (Number.int_at 1), Int.one_mul]
  exact Int.ofNat_lt.mpr less

/-- Every draw of a generator is below one. -/
theorem draw_lt_one (generator : Twister) (taken : Nat) :
    (Number.double (seeded generator taken).draw.1).lt (.int 1) = true := by
  simp only [draw]
  exact drawOf_lt_one _ _

end Source
namespace Ending

variable {config : Config} {risk risk' emotion emotion' : Number} {draw : Binary64}
  {store store' : Store} {source source' left left' : Source} {scene scene' : Text}

/-! ## 3. Deadly draws -/

/-- **Whether a draw is deadly at a risk**: there is a chance of death, and the draw is below it. -/
def isDeadly (config : Config) (risk : Number) (draw : Binary64) : Bool :=
  match deathChance config risk with
  | .ok chance => Number.zero.lt chance && (Number.double draw).lt chance
  | .error _ => false

theorem isDeadly_iff :
    isDeadly config risk draw = true ↔ ∃ chance, deathChance config risk = .ok chance ∧
      Number.zero.lt chance = true ∧ (Number.double draw).lt chance = true := by
  unfold isDeadly
  cases deathChance config risk <;> simp

theorem deathChance_eq_ok_iff {chance : Number} :
    deathChance config risk = .ok chance ↔
      (risk.lt config.riskThreshold = true ∧ chance = .double (.zero false)) ∨
        risk.lt config.riskThreshold = false ∧ ∃ product,
          risk.mul config.deathChancePerRisk = .ok product ∧
            chance = .capped config.deathChanceCap product := by
  unfold deathChance
  cases risk.lt config.riskThreshold with
  | true => simp [eq_comm]
  | false =>
    cases risk.mul config.deathChancePerRisk <;>
      simp [bind, Except.bind, pure, Except.pure, eq_comm]

/-- **A draw is deadly** if the risk is not below the threshold and the draw below the cap and below
the product, and both of these are above zero. -/
theorem isDeadly_iff_of_at {k j : Int} (place : risk.position = some (.at k))
    (factor : config.deathChancePerRisk.position = some (.at j)) :
    isDeadly config risk draw = true ↔
      risk.lt config.riskThreshold = false ∧ ∃ product,
        risk.mul config.deathChancePerRisk = .ok product ∧
          (Number.zero.lt config.deathChanceCap = true ∧ Number.zero.lt product = true) ∧
            (Number.double draw).lt config.deathChanceCap = true ∧
              (Number.double draw).lt product = true := by
  rw [isDeadly_iff]
  constructor
  · rintro ⟨chance, found, positive, below⟩
    rcases deathChance_eq_ok_iff.mp found with ⟨-, rfl⟩ | ⟨high, product, done, rfl⟩
    · rw [Number.not_zero_lt_zero] at positive
      contradiction
    · have number := Number.isNaN_of_mul_at place factor done
      exact ⟨high, product, done, (Number.lt_capped_iff number).mp positive,
        (Number.lt_capped_iff number).mp below⟩
  · rintro ⟨high, product, done, positive, below⟩
    have number := Number.isNaN_of_mul_at place factor done
    exact ⟨_, deathChance_eq_ok_iff.mpr (.inr ⟨high, product, done, rfl⟩),
      (Number.lt_capped_iff number).mpr positive, (Number.lt_capped_iff number).mpr below⟩

/-- **More risk is never less deadly.**  Of a draw that is not below one this may be wrong where the
chance for each risk is an integer: its product with an integer is not rounded. -/
theorem isDeadly_of_lt (finite : risk.Finite) (finite' : risk'.Finite) (more : risk.lt risk' = true)
    {j : Int} (factor : config.deathChancePerRisk.position = some (.at j)) (nonneg : 0 ≤ j)
    (unit : (∃ x, config.deathChancePerRisk = .double x) ∨ (Number.double draw).lt (.int 1) = true)
    {chance : Number} (found : deathChance config risk' = .ok chance)
    (deadly : isDeadly config risk draw = true) : isDeadly config risk' draw = true := by
  obtain ⟨k, place⟩ := finite
  obtain ⟨k', place'⟩ := finite'
  have less : k < k' := (Number.lt_of_at place place').mp more
  obtain ⟨high, product, done, ⟨capped, positive⟩, belowCap, below⟩ :=
    (isDeadly_iff_of_at place factor).mp deadly
  obtain ⟨first, second⟩ := Number.pos_of_mul_pos place factor nonneg done positive
  have high' : risk'.lt config.riskThreshold = false := by
    rw [← Bool.not_eq_true] at high ⊢
    exact fun low => high (Number.lt_trans more low)
  obtain ⟨product', done'⟩ : ∃ product', risk'.mul config.deathChancePerRisk = .ok product' := by
    rcases deathChance_eq_ok_iff.mp found with ⟨low, -⟩ | ⟨-, product', done', -⟩
    · rw [high'] at low
      contradiction
    · exact ⟨product', done'⟩
  refine (isDeadly_iff_of_at place' factor).mpr ⟨high', product', done', ?_⟩
  rcases Number.le_or_one_le_of_mul place place' factor first second less.le done done' with
    larger | ⟨⟨n, whole⟩, larger⟩
  · exact ⟨⟨capped, Number.lt_of_lt_of_le positive larger⟩,
      belowCap, Number.lt_of_lt_of_le below larger⟩
  · -- Both products are at least one, which is above zero and above the draw.
    have one : (Number.double draw).lt (.int 1) = true := by
      refine unit.resolve_left ?_
      rintro ⟨x, double⟩
      rw [whole] at double
      contradiction
    exact ⟨⟨capped, Number.lt_of_lt_of_le Number.zero_lt_one larger⟩,
      belowCap, Number.lt_of_lt_of_le one larger⟩

/-! ## 4. Grades -/

/-- How good an ending is that is not deadly. -/
inductive Grade where
  | bad
  | neutral
  | good
deriving DecidableEq, Repr

namespace Grade

/-- The place of a grade in their order. -/
def rank : Grade → Nat
  | .bad => 0
  | .neutral => 1
  | .good => 2

/-- The ending of a grade. -/
def ending (config : Config) : Grade → Text
  | .bad => config.badEnding
  | .neutral => config.neutralEnding
  | .good => config.goodEnding

end Grade

/-- The grade that an emotion leads to. -/
def gradeOf (config : Config) (emotion : Number) : Grade :=
  if config.goodThreshold.le emotion then .good
  else if config.neutralThreshold.le emotion then .neutral
  else .bad

theorem ofEmotion_eq (config : Config) (emotion : Number) :
    ofEmotion config emotion = (gradeOf config emotion).ending config := by
  unfold ofEmotion gradeOf
  split
  · rfl
  · split <;> rfl

/-- **More emotion never has a lower grade**, whatever the order of the thresholds. -/
theorem rank_gradeOf_le (more : emotion.le emotion' = true) :
    (gradeOf config emotion).rank ≤ (gradeOf config emotion').rank := by
  have passed {threshold : Number} (low : threshold.le emotion = true) :
      threshold.le emotion' = true := Number.le_trans low more
  unfold gradeOf
  by_cases good : config.goodThreshold.le emotion = true
  · rw [if_pos good, if_pos (passed good)]
  · rw [if_neg good]
    by_cases good' : config.goodThreshold.le emotion' = true
    · rw [if_pos good']
      split <;> decide
    · rw [if_neg good']
      by_cases neutral : config.neutralThreshold.le emotion = true
      · rw [if_pos neutral, if_pos (passed neutral)]
      · rw [if_neg neutral]
        exact Nat.zero_le _

/-! ## 5. The policy -/

/-- Where there is a chance, a draw is taken if it is above zero, and then it may be deadly;
otherwise emotion counts. -/
theorem resolve_of_chance {chance : Number}
    (found : deathChance config (reading store "risk") = .ok chance) :
    resolve config store source = .ok
      (if isDeadly config (reading store "risk") source.draw.1 then config.deathEnding
        else (gradeOf config (reading store "emotion")).ending config,
      if Number.zero.lt chance then source.draw.2 else source) := by
  unfold resolve isDeadly
  rw [found, ofEmotion_eq]
  cases positive : Number.zero.lt chance with
  | true =>
    simp only [bind, Except.bind, pure, Except.pure, positive, if_true, Bool.true_and]
  | false =>
    simp only [bind, Except.bind, pure, Except.pure, positive, Bool.false_and, Bool.false_eq_true,
      if_false]

theorem resolve_eq_ok_iff :
    resolve config store source = .ok (scene, left) ↔
      (∃ chance, deathChance config (reading store "risk") = .ok chance ∧
        left = if Number.zero.lt chance then source.draw.2 else source) ∧
      scene = if isDeadly config (reading store "risk") source.draw.1 then config.deathEnding
        else (gradeOf config (reading store "emotion")).ending config := by
  constructor
  · intro resolved
    cases found : deathChance config (reading store "risk") with
    | error fault =>
      have failed : resolve config store source = .error fault := by
        unfold resolve
        rw [found]
        rfl
      rw [failed] at resolved
      contradiction
    | ok chance =>
      rw [resolve_of_chance found] at resolved
      obtain ⟨rfl, rfl⟩ := Prod.mk.inj (Except.ok.inj resolved)
      exact ⟨⟨chance, rfl, rfl⟩, rfl⟩
  · rintro ⟨⟨chance, found, rfl⟩, rfl⟩
    exact resolve_of_chance found

/-- A draw that is taken is counted. -/
theorem taken_draw (source : Source) : source.draw.2.taken = source.taken + 1 := by
  cases source <;> rfl

/-- **What can be relied on when endings are resolved**, for all variables and sources. -/
structure Policy (config : Config) : Prop where
  /-- An ending is one of the four of the configuration. -/
  named : ∀ {store source scene left}, resolve config store source = .ok (scene, left) →
    scene ∈ endings config
  /-- One draw is taken if there is a chance of death, and none otherwise. -/
  drawn : ∀ {store source scene left}, resolve config store source = .ok (scene, left) →
    ∃ chance, deathChance config (reading store "risk") = .ok chance ∧
      (Number.zero.lt chance = true ∧ left = source.draw.2 ∧ left.taken = source.taken + 1 ∨
        Number.zero.lt chance = false ∧ left = source)
  /-- Below the threshold the ending is the same with every source. -/
  undrawn : ∀ store, (reading store "risk").lt config.riskThreshold = true →
    ∃ scene, ∀ source, resolve config store source = .ok (scene, source)
  /-- Only two variables count. -/
  reads : ∀ {store store' : Store}, store.get "risk" = store'.get "risk" →
    store.get "emotion" = store'.get "emotion" →
      ∀ source, resolve config store source = resolve config store' source
  /-- Risk and draw settle whether the ending is the deadly one, and emotion which other one it
  is. -/
  branches : ∀ {store source scene left}, resolve config store source = .ok (scene, left) →
    scene = if isDeadly config (reading store "risk") source.draw.1 then config.deathEnding
      else (gradeOf config (reading store "emotion")).ending config
  /-- At the same risk and draw more emotion leads to no worse an ending. -/
  milder : ∀ {store store' source source' scene scene' left left'},
    resolve config store source = .ok (scene, left) →
    resolve config store' source' = .ok (scene', left') →
    reading store "risk" = reading store' "risk" → source.draw.1 = source'.draw.1 →
    (reading store "emotion").le (reading store' "emotion") = true →
      (scene = config.deathEnding ∧ scene' = config.deathEnding) ∨
        ∃ grade grade', grade = gradeOf config (reading store "emotion") ∧
          grade' = gradeOf config (reading store' "emotion") ∧ grade.rank ≤ grade'.rank ∧
            scene = grade.ending config ∧ scene' = grade'.ending config
  /-- A draw that is deadly at a finite risk is deadly at every larger one for which an ending is
  resolved.  A draw is below one; that matters only if the chance for each risk is an integer. -/
  deadlier : ∀ {store store' : Store} {source source' : Source} {scene' left' j},
    resolve config store' source' = .ok (scene', left') →
    (reading store "risk").Finite → (reading store' "risk").Finite →
    (reading store "risk").lt (reading store' "risk") = true →
    config.deathChancePerRisk.position = some (.at j) → 0 ≤ j →
    ((∃ x, config.deathChancePerRisk = .double x) ∨
      (Number.double source.draw.1).lt (.int 1) = true) →
    source.draw.1 = source'.draw.1 →
    isDeadly config (reading store "risk") source.draw.1 = true →
      isDeadly config (reading store' "risk") source'.draw.1 = true ∧ scene' = config.deathEnding
  /-- Draws of a generator are below one. -/
  below : ∀ generator taken,
    (Number.double (Source.seeded generator taken).draw.1).lt (.int 1) = true
  /-- The chance of death is zero, the cap, or below the cap. -/
  capped : ∀ {risk chance}, deathChance config risk = .ok chance →
    chance = .double (.zero false) ∨ chance = config.deathChanceCap ∨
      chance.lt config.deathChanceCap = true
  /-- So it is zero or at most the cap, unless the cap is NaN. -/
  atMost : ∀ {risk chance}, deathChance config risk = .ok chance →
    config.deathChanceCap.isNaN = false →
      chance = .double (.zero false) ∨ chance.le config.deathChanceCap = true

/-- **Every configuration has a policy to rely on.** -/
theorem policy_resolve (config : Config) : Policy config where
  named := mem_endings_of_resolve
  drawn := by
    intro store source scene left resolved
    obtain ⟨⟨chance, found, rfl⟩, -⟩ := resolve_eq_ok_iff.mp resolved
    refine ⟨chance, found, ?_⟩
    cases Number.zero.lt chance with
    | true => exact .inl ⟨rfl, rfl, taken_draw source⟩
    | false => exact .inr ⟨rfl, rfl⟩
  undrawn := by
    intro store low
    have none := deathChance_eq_ok_iff.mpr (.inl ⟨low, rfl⟩)
    refine ⟨(gradeOf config (reading store "emotion")).ending config, fun source => ?_⟩
    refine resolve_eq_ok_iff.mpr ⟨⟨_, none, ?_⟩, ?_⟩
    · rw [Number.not_zero_lt_zero]
      rfl
    · simp only [isDeadly, none, Number.not_zero_lt_zero, Bool.false_and, Bool.false_eq_true,
        if_false]
  reads := by
    intro store store' risk emotion source
    simp only [resolve, reading, risk, emotion]
  branches := fun resolved => (resolve_eq_ok_iff.mp resolved).2
  milder := by
    intro store store' source source' scene scene' left left' resolved resolved' risk draw more
    obtain ⟨-, rfl⟩ := resolve_eq_ok_iff.mp resolved
    obtain ⟨-, rfl⟩ := resolve_eq_ok_iff.mp resolved'
    rw [← risk, ← draw]
    cases isDeadly config (reading store "risk") source.draw.1 with
    | true => exact .inl ⟨rfl, rfl⟩
    | false => exact .inr ⟨_, _, rfl, rfl, rank_gradeOf_le more, rfl, rfl⟩
  deadlier := by
    intro store store' source source' scene' left' j resolved' finite finite' more factor nonneg
      unit draw deadly
    obtain ⟨⟨chance, found, -⟩, rfl⟩ := resolve_eq_ok_iff.mp resolved'
    have deadly' := isDeadly_of_lt finite finite' more factor nonneg unit found deadly
    rw [draw] at deadly'
    exact ⟨deadly', if_pos deadly'⟩
  below := Source.draw_lt_one
  capped := by
    intro risk chance found
    rcases deathChance_eq_ok_iff.mp found with ⟨-, rfl⟩ | ⟨-, product, -, rfl⟩
    · exact .inl rfl
    · exact .inr (Number.capped_cases config.deathChanceCap product)
  atMost := by
    intro risk chance found number
    rcases deathChance_eq_ok_iff.mp found with ⟨-, rfl⟩ | ⟨-, product, -, rfl⟩
    · exact .inl rfl
    · right
      rcases Number.capped_cases config.deathChanceCap product with whole | less
      · obtain ⟨x, place⟩ := Number.exists_onLine number
        rw [whole]
        exact (Number.le_iff place place).mpr le_rfl
      · exact Number.le_of_lt less

/-- By default a draw of a fifth is deadly at a risk of five, and so it is at a risk of six. -/
theorem policy_at_five :
    let config : Config := {}
    let five : Store := Table.ofList [("risk", .number (.int 5))]
    let six : Store := Table.ofList [("risk", .number (.int 6))]
    let source : Source := .listed [Decimal.toBinary64 false ⟨2, -1⟩] 0
    ((reading five "risk").Finite ∧ (reading six "risk").Finite ∧
      (reading five "risk").lt (reading six "risk") = true ∧
        isDeadly config (reading five "risk") source.draw.1 = true) ∧
      ∃ scene left, resolve config six source = .ok (scene, left) ∧
        isDeadly config (reading six "risk") source.draw.1 = true ∧
          scene = config.deathEnding := by
  intro config five six source
  have riskFive : reading five "risk" = .int 5 := rfl
  have riskSix : reading six "risk" = .int 6 := rfl
  have finite (n : Int) : (Number.int n).Finite := ⟨_, rfl⟩
  have more : (Number.int 5).lt (.int 6) = true := by decide +kernel
  have deadly : isDeadly config (.int 5) source.draw.1 = true := by decide +kernel
  have factor : ∃ x, config.deathChancePerRisk = .double x := ⟨_, rfl⟩
  have positive : (config.deathChancePerRisk.position.any fun
      | .at j => decide (0 ≤ j)
      | _ => false) = true := by
    decide +kernel
  have resolves : (resolve config six source).toOption.isSome = true := by decide +kernel
  obtain ⟨⟨scene, left⟩, resolved⟩ : ∃ outcome, resolve config six source = .ok outcome := by
    cases resolved : resolve config six source with
    | error fault =>
      rw [resolved] at resolves
      exact (Bool.false_ne_true resolves).elim
    | ok outcome => exact ⟨outcome, rfl⟩
  obtain ⟨place, found, nonneg⟩ := (Option.any_eq_true _ _).mp positive
  cases place with
  | «at» j =>
    have nonneg : 0 ≤ j := by simpa using nonneg
    have deadlier := @(policy_resolve config).deadlier five six source source scene left j
    rw [riskFive, riskSix] at deadlier ⊢
    refine ⟨⟨finite 5, finite 6, more, deadly⟩, scene, left, resolved, ?_⟩
    exact deadlier resolved (finite 5) (finite 6) more found nonneg (.inl factor) rfl deadly
  | below | above => exact (Bool.false_ne_true nonneg).elim

/-- A draw of `2 ^ 113` is deadly at the integer before `2 ^ 60` and not at the double `2 ^ 60`, for
an integer as the chance for each risk that would be rounded downwards. -/
example :
    let config : Config := {
      deathChancePerRisk := .int (2 ^ 53 + 1), deathChanceCap := .double (.infinite false) }
    let draw := Decimal.toBinary64 false ⟨2 ^ 113, 0⟩
    isDeadly config (.int (2 ^ 60 - 1)) draw = true ∧
      isDeadly config (.ofDecimal (2 ^ 60) 0) draw = false := by
  decide +kernel

end Ending
end Gamebook

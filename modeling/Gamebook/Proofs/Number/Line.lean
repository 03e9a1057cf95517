/-
# Numbers on the line

What numbers are in mathematics, apart from how they are kept: an integer is itself, a finite double
is its units divided by the units of one, the infinities are the two ends of the line, and NaN is
nowhere (`Number.onLine?`).

The comparisons of numbers are the order of that line.  Nothing is rounded: an integer of any size
stands to a double as the two rational numbers stand to each other (`Number.lt_iff`,
`Number.le_iff`, `Number.same_iff`).
-/
import Gamebook.Proofs.Number.Plain
import Mathlib.Algebra.Order.Field.Basic
import Mathlib.Data.Rat.Cast.Order
import Mathlib.Order.WithBot

namespace Gamebook

/-- The rational numbers with an end on either side. -/
abbrev NumberLine := WithBot (WithTop ℚ)

namespace NumberLine

/-- A rational number on the line. -/
def ofRat (q : ℚ) : NumberLine := WithBot.some (WithTop.some q)

variable {p q : ℚ}

@[simp] theorem ofRat_lt_ofRat : ofRat p < ofRat q ↔ p < q :=
  WithBot.coe_lt_coe.trans WithTop.coe_lt_coe

@[simp] theorem ofRat_inj : ofRat p = ofRat q ↔ p = q :=
  WithBot.coe_inj.trans WithTop.coe_inj

@[simp] theorem bot_lt_ofRat (q : ℚ) : ⊥ < ofRat q := WithBot.bot_lt_coe _

@[simp] theorem ofRat_lt_top (q : ℚ) : ofRat q < ⊤ := WithBot.coe_lt_coe.mpr (WithTop.coe_lt_top q)

end NumberLine

namespace Number

/-- **Where a number is on the line**; NaN is nowhere. -/
def onLine? : Number → Option NumberLine
  | .int n => some (NumberLine.ofRat n)
  | .double (.finite negative units _) =>
    some (NumberLine.ofRat ((if negative then -1 else 1) * (units / unitsPerOne)))
  | .double (.infinite negative) => some (if negative then ⊥ else ⊤)
  | .double .nan => none

/-! ## 1. Positions -/

namespace Position

/-- Where a position is on the line. -/
def onLine : Position → NumberLine
  | .below => ⊥
  | .at units => NumberLine.ofRat (units / unitsPerOne)
  | .above => ⊤

variable {p q : Position}

theorem unit_pos : (0 : ℚ) < unitsPerOne := by exact_mod_cast unitsPerOne_pos

/-- Positions keep the order of the line. -/
theorem lt_iff : Position.lt p q = true ↔ p.onLine < q.onLine := by
  have ends : (⊥ : NumberLine) < ⊤ := bot_lt_top
  cases p <;> cases q
  case at.at u v =>
    simp only [Position.lt, onLine, decide_eq_true_eq, NumberLine.ofRat_lt_ofRat,
      div_lt_div_iff_of_pos_right unit_pos, Int.cast_lt]
  all_goals
    simp only [Position.lt, onLine, ends, lt_irrefl, not_lt_bot, not_top_lt,
      NumberLine.bot_lt_ofRat, NumberLine.ofRat_lt_top, Bool.false_eq_true]

/-- Of two positions that are not the same, one is before the other. -/
theorem lt_or_lt (apart : p ≠ q) : Position.lt p q = true ∨ Position.lt q p = true := by
  cases p <;> cases q
  case at.at u v =>
    have apart : u ≠ v := fun same => apart (congrArg Position.at same)
    simpa [Position.lt] using Int.lt_or_gt_of_ne apart
  all_goals simp_all [Position.lt]

theorem onLine_inj : p.onLine = q.onLine ↔ p = q := by
  constructor
  · intro same
    by_contra apart
    rcases lt_or_lt apart with before | before
    · exact absurd (lt_iff.mp before) (same ▸ lt_irrefl _)
    · exact absurd (lt_iff.mp before) (same ▸ lt_irrefl _)
  · rintro rfl
    rfl

end Position

/-! ## 2. Numbers -/

variable {m n : Number} {x y : NumberLine}

theorem onLine?_eq (n : Number) : n.onLine? = n.position.map Position.onLine := by
  have unit := Position.unit_pos.ne'
  rcases n with n | (⟨negative, units, fits⟩ | negative | _)
  · simp only [onLine?, position, Position.onLine, Option.map_some, Int.cast_mul, Int.cast_natCast,
      mul_div_cancel_right₀ _ unit]
  · cases negative <;>
      simp only [onLine?, position, Position.onLine, Binary64.signedUnits, Option.map_some,
        Int.cast_neg, Int.cast_natCast, neg_div, neg_one_mul, one_mul, if_true, if_false,
        Bool.false_eq_true]
  · cases negative <;> rfl
  · rfl

/-- Every number but NaN is on the line. -/
theorem exists_onLine (number : n.isNaN = false) : ∃ x, n.onLine? = some x := by
  rcases n with n | (⟨negative, units, fits⟩ | negative | _)
  · exact ⟨_, rfl⟩
  · exact ⟨_, rfl⟩
  · exact ⟨_, rfl⟩
  · contradiction

/-- A relation of numbers is one of their positions. -/
theorem related_iff (r : Position → Position → Bool) (first : m.onLine? = some x)
    (second : n.onLine? = some y) :
    ∃ p q, x = p.onLine ∧ y = q.onLine ∧ related r m n = r p q := by
  rw [onLine?_eq, Option.map_eq_some_iff] at first second
  rcases first with ⟨p, first, rfl⟩
  rcases second with ⟨q, second, rfl⟩
  refine ⟨p, q, rfl, rfl, ?_⟩
  unfold related
  rw [first, second]

/-- **The strict order of numbers is that of the line.** -/
theorem lt_iff (first : m.onLine? = some x) (second : n.onLine? = some y) :
    m.lt n = true ↔ x < y := by
  rcases related_iff Position.lt first second with ⟨p, q, rfl, rfl, same⟩
  rw [lt, same, Position.lt_iff]

/-- **And so is the order.** -/
theorem le_iff (first : m.onLine? = some x) (second : n.onLine? = some y) :
    m.le n = true ↔ x ≤ y := by
  rcases related_iff (fun p q => !Position.lt q p) first second with ⟨p, q, rfl, rfl, same⟩
  rw [le, same, Bool.not_eq_true', ← Bool.not_eq_true, Position.lt_iff, not_lt]

/-- **Numbers are the same if they are one number of the line**, whatever their kinds. -/
theorem same_iff (first : m.onLine? = some x) (second : n.onLine? = some y) :
    m.same n = true ↔ x = y := by
  rcases related_iff (fun p q => decide (p = q)) first second with ⟨p, q, rfl, rfl, same⟩
  rw [Number.same, same, decide_eq_true_iff, Position.onLine_inj]

end Number
end Gamebook

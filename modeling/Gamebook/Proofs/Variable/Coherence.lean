/-
# The relations of comparisons agree

A comparison holds a variable against a literal, in one of six relations.  Equality and the order
relations are computed in different ways, and this file settles that they agree nevertheless
(`coherent_holds`).

* **Numbers.**  A number against a literal that reads as a number stands in each relation exactly
  if the two stand so on the line (`Relation.Holds`).  So exactly one of `<`, `==` and `>` holds.
* **Truth values.**  On both sides they compare as one and zero.  Against a number a truth value is
  never equal, but the order relations count it as one or zero.
* **Anything else.**  A literal that is neither makes every relation false but `!=`.
-/
import Gamebook.Proofs.Number.Line
import Gamebook.Variable.Condition

namespace Gamebook

open Text

/-! ## 1. Relations on the line -/

namespace Relation

/-- What a relation says of two numbers of the line. -/
def Holds (r : Relation) (x y : NumberLine) : Prop :=
  match r with
  | .atLeast => y ≤ x
  | .atMost => x ≤ y
  | .equal => x = y
  | .unequal => x ≠ y
  | .above => y < x
  | .below => x < y

/-- Whether a relation asks for an order, and not for equality. -/
def isOrder : Relation → Bool
  | .equal | .unequal => false
  | .atLeast | .atMost | .above | .below => true

end Relation

/-- A truth value as a number of the line. -/
def NumberLine.ofBool (b : Bool) : NumberLine := NumberLine.ofRat (if b then 1 else 0)

theorem Number.onLine?_ofBool (b : Bool) :
    (Number.ofBool b).onLine? = some (NumberLine.ofBool b) := by
  cases b <;> simp [Number.ofBool, Number.onLine?, NumberLine.ofBool]

namespace Comparison

variable {v : Value} {o : Operand} {m n : Number} {x y : NumberLine} {r : Relation}

/-- **The order relations compare what the sides count as.** -/
theorem test_order (order : r.isOrder = true) (left : v.toNumber? = some m)
    (right : o.toNumber? = some n) (first : m.onLine? = some x) (second : n.onLine? = some y) :
    test r v o = true ↔ r.Holds x y := by
  have ordered_eq (relation : Number → Number → Bool) : ordered relation v o = relation m n := by
    unfold ordered
    rw [left, right]
  cases r with
  | equal => contradiction
  | unequal => contradiction
  | atLeast => simp only [test, ordered_eq, Relation.Holds, Number.le_iff second first]
  | atMost => simp only [test, ordered_eq, Relation.Holds, Number.le_iff first second]
  | above => simp only [test, ordered_eq, Relation.Holds, Number.lt_iff second first]
  | below => simp only [test, ordered_eq, Relation.Holds, Number.lt_iff first second]

/-- Where equality is that of the line, all relations are those of the line. -/
theorem test_eq_line (equal : matches? v o = true ↔ x = y) (left : v.toNumber? = some m)
    (right : o.toNumber? = some n) (first : m.onLine? = some x) (second : n.onLine? = some y)
    (r : Relation) : test r v o = true ↔ r.Holds x y := by
  cases r with
  | equal => exact equal
  | unequal => simp [test, Relation.Holds, ← equal]
  | atLeast => exact test_order rfl left right first second
  | atMost => exact test_order rfl left right first second
  | above => exact test_order rfl left right first second
  | below => exact test_order rfl left right first second

/-- An unreadable literal is only unequal. -/
theorem test_unreadable (r : Relation) (v : Value) :
    test r v .unreadable = true ↔ r = .unequal := by
  have none (relation : Number → Number → Bool) : ordered relation v .unreadable = false := by
    unfold ordered
    cases v.toNumber? <;> rfl
  cases r <;> cases v <;> simp [test, none, matches?]

/-! ## 2. Operands -/

/-- How a truth value is written as a literal. -/
def word (b : Bool) : Text := if b then "true" else "false"

theorem operand_word (name : Text) (relation : Relation) (b : Bool) :
    operand ⟨name, relation, word b⟩ = .bool b := by
  cases b
  · rfl
  · rfl

theorem operand_of_number {name literal : Text} {relation : Relation}
    (read : Number.ofText? literal = some n) :
    operand ⟨name, relation, literal⟩ = .number n := by
  have words : Number.ofText? "true" = none ∧ Number.ofText? "false" = none := by decide +kernel
  have notTrue : literal ≠ "true" := by
    rintro rfl
    rw [words.1] at read
    contradiction
  have notFalse : literal ≠ "false" := by
    rintro rfl
    rw [words.2] at read
    contradiction
  simp only [operand, notTrue, notFalse, if_false, read]

theorem operand_of_none {name literal : Text} {relation : Relation}
    (unread : Number.ofText? literal = none) (notTrue : literal ≠ "true")
    (notFalse : literal ≠ "false") : operand ⟨name, relation, literal⟩ = .unreadable := by
  simp only [operand, notTrue, notFalse, if_false, unread]

/-! ## 3. Coherence -/

/-- Whether a variable stands in a relation to a literal. -/
def stands (store : Store) (name literal : Text) (r : Relation) : Bool :=
  holds ⟨name, r, literal⟩ store

/-- **How the six relations of a variable to a literal agree.** -/
structure Coherent (store : Store) (name literal : Text) : Prop where
  complementary : stands store name literal .unequal = !stands store name literal .equal
  /-- Two numbers, of whatever kinds, compare as they do on the line. -/
  numbers : ∀ m n, store.get name = .number m → m.isNaN = false →
    Number.ofText? literal = some n →
      (∃ x y, m.onLine? = some x ∧ n.onLine? = some y ∧
        ∀ r, stands store name literal r = true ↔ r.Holds x y) ∧
      [Relation.below, .equal, .above].countP (stands store name literal) = 1 ∧
      stands store name literal .atMost = (!stands store name literal .above) ∧
      stands store name literal .atLeast = !stands store name literal .below
  /-- A truth value does not equal a number, but has its place in the order. -/
  boolNumber : ∀ b n, store.get name = .bool b → Number.ofText? literal = some n →
    stands store name literal .equal = false ∧
      ∃ y, n.onLine? = some y ∧ ∀ r, r.isOrder = true →
        (stands store name literal r = true ↔ r.Holds (.ofBool b) y)
  /-- Nor does a number equal a truth value. -/
  numberBool : ∀ m b, store.get name = .number m → m.isNaN = false →
    literal = word b →
      stands store name literal .equal = false ∧
        ∃ x, m.onLine? = some x ∧ ∀ r, r.isOrder = true →
          (stands store name literal r = true ↔ r.Holds x (.ofBool b))
  /-- Truth values compare as one and zero. -/
  bools : ∀ a b, store.get name = .bool a → literal = word b →
    ∀ r, stands store name literal r = true ↔ r.Holds (.ofBool a) (.ofBool b)
  /-- A literal that is no number and no truth value is only unequal. -/
  unreadable : Number.ofText? literal = none → literal ≠ "true" → literal ≠ "false" →
    ∀ r, stands store name literal r = true ↔ r = .unequal

section

variable {store : Store} {name literal : Text}

/-- What stands in the relations of the line stands in one of `<`, `==` and `>`. -/
theorem count_of_line (line : ∀ r, stands store name literal r = true ↔ r.Holds x y) :
    [Relation.below, .equal, .above].countP (stands store name literal) = 1 ∧
      stands store name literal .atMost = (!stands store name literal .above) ∧
      stands store name literal .atLeast = !stands store name literal .below := by
  have value (r : Relation) (b : Bool) (known : r.Holds x y ↔ b = true) :
      stands store name literal r = b := Bool.eq_iff_iff.mpr ((line r).trans known)
  refine ⟨?_, ?_, ?_⟩
  · simp only [List.countP_cons, List.countP_nil]
    rcases lt_trichotomy x y with before | same | behind
    · rw [value .below true (by simp [Relation.Holds, before]),
        value .equal false (by simp [Relation.Holds, before.ne]),
        value .above false (by simp [Relation.Holds, lt_asymm before])]
      rfl
    · rw [value .below false (by simp [Relation.Holds, same]),
        value .equal true (by simp [Relation.Holds, same]),
        value .above false (by simp [Relation.Holds, same])]
      rfl
    · rw [value .below false (by simp [Relation.Holds, lt_asymm behind]),
        value .equal false (by simp [Relation.Holds, behind.ne']),
        value .above true (by simp [Relation.Holds, behind])]
      rfl
  · refine value .atMost _ ?_
    rw [Bool.not_eq_true', ← Bool.not_eq_true, line]
    exact not_lt.symm
  · refine value .atLeast _ ?_
    rw [Bool.not_eq_true', ← Bool.not_eq_true, line]
    exact not_lt.symm

theorem stands_eq {v : Value} {o : Operand} (current : store.get name = v)
    (meaning : ∀ relation, operand ⟨name, relation, literal⟩ = o) (r : Relation) :
    stands store name literal r = test r v o := by
  unfold stands holds
  rw [meaning]
  simp only [current]

/-- **The six relations agree**, for every variable and every literal. -/
theorem coherent_holds (store : Store) (name literal : Text) : Coherent store name literal where
  complementary := rfl
  numbers := by
    intro m n current number read
    rcases m.exists_onLine number with ⟨x, first⟩
    rcases n.exists_onLine (Number.isNaN_of_ofText? read) with ⟨y, second⟩
    have left : (Value.number m).toNumber? = some m := by simp [Value.toNumber?, number]
    have equal : matches? (.number m) (.number n) = true ↔ x = y := Number.same_iff first second
    have line : ∀ r, stands store name literal r = true ↔ r.Holds x y := by
      intro r
      rw [stands_eq current fun _ => operand_of_number read]
      exact test_eq_line equal left rfl first second r
    exact ⟨⟨x, y, first, second, line⟩, count_of_line line⟩
  boolNumber := by
    intro b n current read
    rcases n.exists_onLine (Number.isNaN_of_ofText? read) with ⟨y, second⟩
    have meaning : ∀ relation, operand ⟨name, relation, literal⟩ = .number n :=
      fun _ => operand_of_number read
    have each := stands_eq current meaning
    refine ⟨each .equal, y, second, ?_⟩
    intro r order
    rw [each]
    exact test_order order rfl rfl (Number.onLine?_ofBool b) second
  numberBool := by
    rintro m b current number rfl
    rcases m.exists_onLine number with ⟨x, first⟩
    have left : (Value.number m).toNumber? = some m := by simp [Value.toNumber?, number]
    have each := stands_eq current fun relation => operand_word name relation b
    refine ⟨each .equal, x, first, ?_⟩
    intro r order
    rw [each]
    exact test_order order left rfl first (Number.onLine?_ofBool b)
  bools := by
    rintro a b current rfl r
    have equal : matches? (.bool a) (.bool b) = true ↔
        NumberLine.ofBool a = NumberLine.ofBool b := by
      cases a <;> cases b <;> simp [matches?, NumberLine.ofBool]
    rw [stands_eq current fun relation => operand_word name relation b]
    exact test_eq_line equal rfl rfl (Number.onLine?_ofBool a) (Number.onLine?_ofBool b) r
  unreadable := by
    intro unread notTrue notFalse r
    rw [stands_eq rfl fun _ => operand_of_none unread notTrue notFalse]
    exact test_unreadable r _

/-- The integer beyond the double that it would be rounded to. -/
example : stands (Table.empty.put "x" (.number (.int (2 ^ 53 + 1)))) "x" "9007199254740992.0"
    .above = true := by decide +kernel

end

end Comparison
end Gamebook

/-
# How effects fail

An effect is carried out clause by clause, and a clause that fails ends it.  This file says which
clauses fail, and what is left of the store.

* **Clauses.**  A change fails if its amount has too many digits, or if it is a step on a double by
  an amount beyond the finite doubles (`Change.Fails`); what it fails with says which.
* **Effects.**  The store that a broken effect leaves is the one that the clauses before the broken
  one left (`Effect.apply_eq_iff`).
-/
import Gamebook.Proofs.Fault
import Gamebook.Proofs.Number.Arithmetic
import Gamebook.Proofs.Table
import Gamebook.Variable.Effect

namespace Gamebook

open Text Literal

/-! ## 1. Clauses -/

namespace Change

variable {change : Change} {current : Value} {fault : Fault}

/-- The digits of the amount that a change writes or moves by. -/
def digits? : Change → Option (List Char)
  | .setBool _ _ => none
  | .setNumber _ digits | .increase _ digits | .decrease _ digits => some digits

/-- Whether a change moves its variable from where it is. -/
def isStep : Change → Bool
  | .setBool _ _ | .setNumber _ _ => false
  | .increase _ _ | .decrease _ _ => true

/-- **Why a change fails** on the value that its variable holds. -/
inductive Fails (change : Change) (current : Value) : Fault → Prop
  /-- Its amount has too many digits. -/
  | overlong {digits : List Char} (amount : change.digits? = some digits)
      (long : digitLimit < digits.length) : Fails change current .tooManyDigits
  /-- It steps on a double by an amount that has no double near it. -/
  | beyond {digits : List Char} {x : Binary64} (amount : change.digits? = some digits)
      (step : change.isStep = true) (fits : digits.length ≤ digitLimit)
      (double : current.toNumber .zero = .double x)
      (far : (Number.int (asciiDigitsValue digits)).Beyond) : Fails change current .tooLarge

theorem integerOf_of_fits {digits : List Char} (fits : digits.length ≤ digitLimit) :
    integerOf false digits = .ok (asciiDigitsValue digits) := by
  unfold integerOf
  rw [if_neg (Nat.not_lt.mpr fits)]
  rfl

theorem integerOf_of_long {digits : List Char} (long : digitLimit < digits.length) :
    integerOf false digits = .error .tooManyDigits := if_pos long

/-- What an amount is used for comes to, by its length. -/
theorem bind_integerOf_eq_error_iff {α : Type} {digits : List Char} {f : Int → Except Fault α} :
    (integerOf false digits >>= f) = .error fault ↔
      (digitLimit < digits.length ∧ fault = .tooManyDigits) ∨
        (digits.length ≤ digitLimit ∧ f (asciiDigitsValue digits) = .error fault) := by
  rcases Nat.lt_or_ge digitLimit digits.length with long | fits
  · rw [integerOf_of_long long]
    simp [bind, Except.bind, long, Nat.not_le.mpr long, eq_comm]
  · rw [integerOf_of_fits fits]
    simp [bind, Except.bind, fits, Nat.not_lt.mpr fits]

theorem map_eq_error_iff {α β : Type} {x : Except Fault α} {f : α → β} :
    (do return f (← x)) = (.error fault : Except Fault β) ↔ x = .error fault := by
  cases x <;> simp [bind, Except.bind, pure, Except.pure]

/-- The reasons for which a change with an amount fails. -/
theorem fails_iff (digits : List Char) (amount : change.digits? = some digits) :
    change.Fails current fault ↔
      (digitLimit < digits.length ∧ fault = .tooManyDigits) ∨
        (digits.length ≤ digitLimit ∧ change.isStep = true ∧ fault = .tooLarge ∧
          (∃ x, current.toNumber .zero = .double x) ∧
          (Number.int (asciiDigitsValue digits)).Beyond) := by
  constructor
  · rintro (⟨amount', long⟩ | ⟨amount', step, fits, double, far⟩)
    · obtain rfl := Option.some.inj (amount'.symm.trans amount)
      exact .inl ⟨long, rfl⟩
    · obtain rfl := Option.some.inj (amount'.symm.trans amount)
      exact .inr ⟨fits, step, rfl, ⟨_, double⟩, far⟩
  · rintro (⟨long, rfl⟩ | ⟨fits, step, rfl, ⟨x, double⟩, far⟩)
    · exact .overlong amount long
    · exact .beyond amount step fits double far

/-- **A change fails exactly for these reasons.** -/
theorem value_eq_error_iff : change.value current = .error fault ↔ change.Fails current fault := by
  cases change with
  | setBool name b => exact ⟨nofun, fun h => by cases h <;> contradiction⟩
  | setNumber name digits =>
    rw [fails_iff digits rfl]
    refine bind_integerOf_eq_error_iff.trans ?_
    simp [isStep, pure, Except.pure]
  | increase name digits =>
    rw [fails_iff digits rfl]
    refine bind_integerOf_eq_error_iff.trans ?_
    simp only [map_eq_error_iff, Number.addInt_eq_error_iff, isStep, true_and]
  | decrease name digits =>
    rw [fails_iff digits rfl]
    refine bind_integerOf_eq_error_iff.trans ?_
    simp only [map_eq_error_iff, Number.subInt_eq_error_iff, isStep, true_and]

theorem apply_eq_error_iff {store : Store} :
    change.apply store = .error fault ↔ change.Fails (store.get change.name) fault := by
  rw [← value_eq_error_iff]
  exact map_eq_error_iff

end Change

/-! ## 2. Effects -/

namespace Effect

variable {store last : Store} {effect clause : Text} {clauses : List Text} {fault : Fault}

/-- **A clause fails** if it is a change that fails on what its variable holds. -/
theorem applyClause_eq_error_iff :
    applyClause store clause = .error fault ↔
      ∃ change, Change.ofClause? clause = some change ∧
        change.Fails (store.get change.name) fault := by
  unfold applyClause
  cases Change.ofClause? clause with
  | none => simp
  | some change => simp [Change.apply_eq_error_iff]

/-- What a clause that does not fail leaves: the store as it is, or with one more write. -/
theorem applyClause_eq_ok (applied : applyClause store clause = .ok last) :
    last = store ∨ ∃ change value, Change.ofClause? clause = some change ∧
      change.value (store.get change.name) = .ok value ∧ last = store.put change.name value := by
  unfold applyClause at applied
  cases reads : Change.ofClause? clause with
  | none =>
    rw [reads] at applied
    exact .inl (Except.ok.inj applied).symm
  | some change =>
    rw [reads] at applied
    simp only [Change.apply] at applied
    cases given : change.value (store.get change.name) with
    | error fault =>
      rw [given] at applied
      cases applied
    | ok value =>
      rw [given] at applied
      exact .inr ⟨change, value, rfl, given, (Except.ok.inj applied).symm⟩

theorem applyClauses_cons (applied : applyClause store clause = .ok last) (rest : List Text) :
    applyClauses store (clause :: rest) = applyClauses last rest := by
  simp only [applyClauses, applied]

theorem applyClauses_of_error (failed : applyClause store clause = .error fault)
    (rest : List Text) : applyClauses store (clause :: rest) = (store, some fault) := by
  simp only [applyClauses, failed]

/-- **Induction along an effect**: what every write of a change keeps holds of the store that an
effect leaves, also if it is broken off. -/
theorem applyClauses_induction {P : Store → Prop}
    (writes : ∀ (store : Store) (change : Change) (value : Value),
      change.value (store.get change.name) = .ok value → P store → P (store.put change.name value))
    (clauses : List Text) (begins : P store) : P (applyClauses store clauses).1 := by
  induction clauses generalizing store with
  | nil => exact begins
  | cons clause rest ih =>
    cases applied : applyClause store clause with
    | error fault =>
      rw [applyClauses_of_error applied]
      exact begins
    | ok next =>
      rw [applyClauses_cons applied]
      rcases applyClause_eq_ok applied with rfl | ⟨change, value, -, given, rfl⟩
      · exact ih begins
      · exact ih (writes store change value given begins)

theorem applyClauses_append (done : applyClauses store clauses = (last, none))
    (rest : List Text) : applyClauses store (clauses ++ rest) = applyClauses last rest := by
  induction clauses generalizing store with
  | nil =>
    cases done
    rfl
  | cons clause others ih =>
    cases applied : applyClause store clause with
    | ok next =>
      rw [applyClauses_cons applied] at done
      rw [List.cons_append, applyClauses_cons applied]
      exact ih done
    | error fault =>
      rw [applyClauses_of_error applied] at done
      cases done

/-- Clauses that are broken off stop at the first one that fails. -/
theorem applyClauses_eq_iff :
    applyClauses store clauses = (last, some fault) ↔
      ∃ before clause after, clauses = before ++ clause :: after ∧
        applyClauses store before = (last, none) ∧ applyClause last clause = .error fault := by
  constructor
  · intro broken
    induction clauses generalizing store with
    | nil => cases broken
    | cons clause rest ih =>
      cases applied : applyClause store clause with
      | ok next =>
        rw [applyClauses_cons applied] at broken
        obtain ⟨before, failing, after, rfl, done, failed⟩ := ih broken
        exact ⟨clause :: before, failing, after, rfl, (applyClauses_cons applied _).trans done,
          failed⟩
      | error other =>
        rw [applyClauses_of_error applied] at broken
        cases broken
        exact ⟨[], clause, rest, rfl, rfl, applied⟩
  · rintro ⟨before, clause, after, rfl, done, failed⟩
    rw [applyClauses_append done, applyClauses_of_error failed]

/-- **A broken effect leaves what the clauses before the broken one left.** -/
theorem apply_eq_iff :
    apply effect store = (last, some fault) ↔
      ∃ before clause after change, Effect.clauses effect = before ++ clause :: after ∧
        applyClauses store before = (last, none) ∧ Change.ofClause? clause = some change ∧
        change.Fails (last.get change.name) fault := by
  unfold apply
  rw [applyClauses_eq_iff]
  simp only [applyClause_eq_error_iff]
  constructor
  · rintro ⟨before, clause, after, split, done, change, reads, fails⟩
    exact ⟨before, clause, after, change, split, done, reads, fails⟩
  · rintro ⟨before, clause, after, change, split, done, reads, fails⟩
    exact ⟨before, clause, after, split, done, change, reads, fails⟩

end Effect

end Gamebook

/-
# How far effects go

The integers of a story stay within limits: a change goes no further than the amount that it is
written with, and an effect no further than the sum of its amounts.  As long as the limits are below
`nearLimit`, no effect fails (`Effect.applyClauses_within`).
-/
import Gamebook.Proofs.Variable.Composition

namespace Gamebook

open Text Literal Number

/-! ## 1. Limits -/

/-- Whether a text has no half of a surrogate pair. -/
def Text.isWhole (t : Text) : Bool := t.all (Letter.isChar fun _ => true)

/-- An integer within a limit, or a double. -/
def Number.Within (limit : Nat) : Number → Prop
  | .int n => n.natAbs ≤ limit
  | .double _ => True

instance (limit : Nat) : (n : Number) → Decidable (n.Within limit)
  | .int n => inferInstanceAs (Decidable (n.natAbs ≤ limit))
  | .double _ => inferInstanceAs (Decidable True)

/-- A truth value, or a number within a limit. -/
def Value.Within (limit : Nat) : Value → Prop
  | .bool _ => True
  | .number n => n.Within limit
  | .null | .text _ => False

instance (limit : Nat) : (v : Value) → Decidable (v.Within limit)
  | .bool _ => inferInstanceAs (Decidable True)
  | .number n => inferInstanceAs (Decidable (n.Within limit))
  | .null | .text _ => inferInstanceAs (Decidable False)

/-- **What is kept of each variable**: it can be written to a file, and it is within a limit. -/
def Store.Within (limit : Nat) (store : Store) : Prop :=
  store.All fun name value => name.isWhole = true ∧ value.Within limit

section

variable {limit more : Nat} {n : Number} {v : Value} {store : Store}

theorem Number.Within.mono (h : n.Within limit) (le : limit ≤ more) : n.Within more := by
  cases n with
  | int n => exact Nat.le_trans h le
  | double x => trivial

theorem Value.Within.mono (h : v.Within limit) (le : limit ≤ more) : v.Within more := by
  cases v with
  | bool b => trivial
  | number n => exact Number.Within.mono h le
  | null => exact h
  | text t => exact h

theorem Store.Within.mono (h : store.Within limit) (le : limit ≤ more) : store.Within more :=
  h.imp fun _ _ within => ⟨within.1, within.2.mono le⟩

theorem Value.Within.toNumber (h : v.Within limit) (positive : 0 < limit) :
    (v.toNumber .zero).Within limit := by
  cases v with
  | bool b => cases b with
    | true => exact positive
    | false => exact Nat.zero_le _
  | number n =>
    unfold Value.toNumber Value.toNumber?
    simp only
    cases n.isNaN with
    | true => exact Nat.zero_le _
    | false => exact h
  | null => exact h.elim
  | text t => exact h.elim

theorem Store.Within.get (h : store.Within limit) (name : Text) :
    (store.get name).Within limit := by
  unfold Store.get
  cases found : store.find? name with
  | none => exact Nat.zero_le _
  | some value => exact (h.of_find? found).2

theorem Number.Within.addInt (h : n.Within limit) {m : Int} {sum : Number}
    (added : n.addInt m = .ok sum) : sum.Within (limit + m.natAbs) := by
  cases n with
  | int n =>
    obtain rfl := Except.ok.inj added
    exact Nat.le_trans (Int.natAbs_add_le n m) (Nat.add_le_add_right h _)
  | double x =>
    obtain ⟨y, -, added⟩ := bind_ok_iff.mp added
    obtain rfl := Except.ok.inj added
    exact True.intro

theorem Number.Within.subInt (h : n.Within limit) {m : Int} {difference : Number}
    (taken : n.subInt m = .ok difference) : difference.Within (limit + m.natAbs) := by
  cases n with
  | int n =>
    obtain rfl := Except.ok.inj taken
    exact Nat.le_trans (Int.natAbs_sub_le n m) (Nat.add_le_add_right h _)
  | double x =>
    obtain ⟨y, -, taken⟩ := bind_ok_iff.mp taken
    obtain rfl := Except.ok.inj taken
    exact True.intro

/-! ## 2. Changes -/

namespace Change

variable {change : Change}

/-- The amount that a change writes or moves by. -/
def amount (change : Change) : Nat := (change.digits?.map asciiDigitsValue).getD 0

/-- Whether the amount of a change has not too many digits. -/
def isShort (change : Change) : Bool :=
  change.digits?.all fun digits => decide (digits.length ≤ digitLimit)

/-- A short change by a small amount does not fail. -/
theorem not_fails (short : change.isShort = true) (small : change.amount < nearLimit)
    (current : Value) (fault : Fault) : ¬ change.Fails current fault := by
  rintro (⟨amount, long⟩ | ⟨amount, -, -, -, far⟩)
  · simp only [isShort, amount, Option.all_some, decide_eq_true_eq] at short
    omega
  · simp only [Change.amount, amount, Option.map_some, Option.getD_some] at small
    exact Number.not_beyond_of_lt (n := asciiDigitsValue _) small far

/-- **A change goes no further than its amount.** -/
theorem within_value {current value : Value} (given : change.value current = .ok value)
    (h : current.Within limit) (positive : 0 < limit) : value.Within (limit + change.amount) := by
  have read {digits : List Char} {n : Int} (read : integerOf false digits = .ok n) :
      n = asciiDigitsValue digits := by
    unfold integerOf at read
    split at read
    · contradiction
    · exact (Except.ok.inj read).symm
  have number := h.toNumber positive
  cases change with
  | setBool name b =>
    obtain rfl := Except.ok.inj given
    trivial
  | setNumber name digits =>
    obtain ⟨n, integer, given⟩ := bind_ok_iff.mp given
    obtain rfl := Except.ok.inj given
    rw [read integer]
    exact Nat.le_add_left _ _
  | increase name digits =>
    obtain ⟨n, integer, given⟩ := bind_ok_iff.mp given
    obtain ⟨sum, added, given⟩ := bind_ok_iff.mp given
    obtain rfl := Except.ok.inj given
    rw [read integer] at added
    exact number.addInt added
  | decrease name digits =>
    obtain ⟨n, integer, given⟩ := bind_ok_iff.mp given
    obtain ⟨difference, taken, given⟩ := bind_ok_iff.mp given
    obtain rfl := Except.ok.inj given
    rw [read integer] at taken
    exact number.subInt taken

end Change

/-! ## 3. Effects -/

/-- A change writes a name of characters. -/
theorem Change.isWhole_name {clause : Text} {change : Change}
    (reads : Change.ofClause? clause = some change) : change.name.isWhole = true := by
  obtain ⟨regular, -⟩ := Change.regular_of_ofClause? reads
  refine List.all_eq_true.mpr fun letter mem => ?_
  have name := regular.name letter mem
  cases letter with
  | char c => rfl
  | half offset => contradiction

namespace Effect

/-- The changes of some clauses. -/
def changes (clauses : List Text) : List Change := clauses.filterMap Change.ofClause?

/-- How far clauses go at most: the sum of their amounts. -/
def reach (clauses : List Text) : Nat :=
  (changes clauses).foldr (fun change far => change.amount + far) 0

variable {clause : Text} {clauses : List Text} {change : Change}

theorem changes_of_none (passed : Change.ofClause? clause = none) :
    changes (clause :: clauses) = changes clauses := List.filterMap_cons_none passed

theorem changes_of_some (reads : Change.ofClause? clause = some change) :
    changes (clause :: clauses) = change :: changes clauses := List.filterMap_cons_some reads

/-- **Clauses with short and small amounts are carried out as a whole**, and go no further than the
sum of their amounts. -/
theorem applyClauses_within (short : ∀ change ∈ changes clauses, change.isShort = true)
    (small : reach clauses < nearLimit) (h : store.Within limit) (positive : 0 < limit) :
    ∃ last, applyClauses store clauses = (last, none) ∧ last.Within (limit + reach clauses) := by
  induction clauses generalizing store limit with
  | nil => exact ⟨store, rfl, h⟩
  | cons clause rest ih =>
    cases reads : Change.ofClause? clause with
    | none =>
      have passed : applyClause store clause = .ok store := by
        unfold applyClause
        rw [reads]
      unfold reach at small ⊢
      rw [changes_of_none reads] at short small ⊢
      rw [applyClauses_cons passed]
      exact ih short small h positive
    | some change =>
      unfold reach at small ⊢
      rw [changes_of_some reads] at short small ⊢
      rw [List.foldr_cons] at small ⊢
      obtain ⟨first, others⟩ := List.forall_mem_cons.mp short
      cases given : change.value (store.get change.name) with
      | error fault =>
        have fails := Change.value_eq_error_iff.mp given
        exact absurd fails (Change.not_fails first (by omega) _ fault)
      | ok value =>
        have applied : applyClause store clause = .ok (store.put change.name value) := by
          unfold applyClause
          rw [reads]
          simp only [Change.apply, given]
          rfl
        have next : Store.Within (limit + change.amount) (store.put change.name value) :=
          (h.mono (Nat.le_add_right ..)).put
            ⟨Change.isWhole_name reads, Change.within_value given (h.get change.name) positive⟩
        obtain ⟨last, done, within⟩ := ih others (Nat.lt_of_le_of_lt (Nat.le_add_left ..) small)
          next (Nat.lt_of_lt_of_le positive (Nat.le_add_right ..))
        refine ⟨last, (applyClauses_cons applied _).trans done, ?_⟩
        rw [← Nat.add_assoc]
        exact within

end Effect

end

end Gamebook

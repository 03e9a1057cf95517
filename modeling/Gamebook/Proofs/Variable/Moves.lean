/-
# Moves add up

A move takes a variable up or down by a natural number.  On integers and truth values moves are
exact, and they commute: where a variable ends is where it began and the sum of the moves that are
for it (`moves_add_up`).  Neither the order of the moves matters nor how they are divided into
effects.

* **Clauses.**  A move on a value that counts as an integer gives an integer
  (`Move.value_change`); a truth value becomes one with the first move.  Leading zeros of an amount
  do not count, since an amount is the number that its digits denote.
* **Rows.**  What a row of moves does is followed name by name (`applyClauses_moves`); the sum of
  the moves of one name is the same for every order of the row (`Move.balance_perm`).
* **Effects.**  Effects that are carried out one after another are the row of all their clauses
  (`applyAll_joined`).
-/
import Gamebook.Proofs.Number.Integers
import Gamebook.Proofs.Variable.Independence
import Mathlib.Algebra.BigOperators.Group.List.Basic
import Mathlib.Algebra.Ring.Int.Defs

namespace Gamebook

open Text Literal

/-! ## 1. Moves -/

/-- A change that takes its variable up or down, by an amount with not too many digits. -/
structure Move where
  name : Text
  up : Bool
  digits : List Char
  named : name ≠ []
  chars : ∀ letter ∈ name, letter.isChar isNameChar = true
  nonempty : digits ≠ []
  digit : ∀ c ∈ digits, isAsciiDigit c = true
  short : digits.length ≤ digitLimit

/-- The integer that an integer or a truth value counts as. -/
def Value.whole? : Value → Option Int
  | .bool b => some (if b then 1 else 0)
  | .number (.int n) => some n
  | .number (.double _) | .null | .text _ => none

theorem Value.toNumber_of_whole {v : Value} {n : Int} (whole : v.whole? = some n) :
    v.toNumber .zero = .int n := by
  rcases v with _ | b | (m | x) | t
  · contradiction
  · cases whole
    rfl
  · cases whole
    rfl
  · contradiction
  · contradiction

namespace Move

variable {move : Move} {v : Value} {n : Int}

/-- A move as a change. -/
def change (move : Move) : Change :=
  if move.up then .increase move.name move.digits else .decrease move.name move.digits

/-- The number that the digits of a move denote. -/
def amount (move : Move) : Nat := Nat.ofDigitChars 10 move.digits 0

/-- How far a move takes its variable, and in which direction. -/
def shift (move : Move) : Int := if move.up then move.amount else -move.amount

@[simp] theorem name_change (move : Move) : move.change.name = move.name := by
  unfold change
  split <;> rfl

theorem digits?_change (move : Move) : move.change.digits? = some move.digits := by
  unfold change
  split <;> rfl

theorem regular (move : Move) : move.change.Regular where
  named := by
    rw [name_change]
    exact move.named
  name := by
    rw [name_change]
    exact move.chars
  amount := by
    intro digits given
    rw [digits?_change] at given
    cases given
    exact ⟨move.nonempty, move.digit⟩

theorem spelling_change (move : Move) :
    move.change.spelling =
      move.name ++ .char (if move.up then '+' else '-') :: ofChars move.digits := by
  unfold change
  cases move.up <;> rfl

theorem integerOf_digits (move : Move) : integerOf false move.digits = .ok (move.amount : Int) :=
  Change.integerOf_of_fits move.short

/-- **A move is exact on what counts as an integer.** -/
theorem value_change (whole : v.whole? = some n) :
    move.change.value v = .ok (.number (.int (n + move.shift))) := by
  have number := Value.toNumber_of_whole whole
  have read := integerOf_digits move
  unfold change shift
  split
  · simp only [Change.value, number, read, Number.addInt]
    rfl
  · simp only [Change.value, number, read, Number.subInt, ← Int.sub_eq_add_neg]
    rfl

/-- How far moves take one variable in all. -/
def balance (name : Text) (moves : List Move) : Int :=
  ((moves.filter fun move => move.name = name).map shift).sum

variable {name : Text} {moves moves' : List Move}

theorem balance_cons_self (move : Move) (moves : List Move) :
    balance move.name (move :: moves) = move.shift + balance move.name moves := by
  simp [balance]

theorem balance_cons_of_ne (other : move.name ≠ name) (moves : List Move) :
    balance name (move :: moves) = balance name moves := by
  simp [balance, other]

/-- **The order of moves does not matter for their sum.** -/
theorem balance_perm (same : moves.Perm moves') : balance name moves = balance name moves' :=
  ((same.filter _).map shift).sum_eq

end Move

/-! ## 2. Rows of moves -/

namespace Effect

variable {store last : Store} {move : Move} {moves : List Move} {name : Text}

theorem applyClause_move {n : Int} (whole : (store.get move.name).whole? = some n) :
    applyClause store move.change.spelling =
      .ok (store.put move.name (.number (.int (n + move.shift)))) := by
  have given : move.change.value (store.get move.name) = .ok (.number (.int (n + move.shift))) :=
    Move.value_change whole
  simp only [applyClause, Change.ofClause?_spelling move.regular, Change.apply, Move.name_change,
    given]
  rfl

/-- What a row of moves leaves of a store. -/
structure Settled (store : Store) (moves : List Move) (last : Store) : Prop where
  /-- What counted as an integer counts as that integer and the moves for it. -/
  moved : ∀ name n, (store.get name).whole? = some n →
    (last.get name).whole? = some (n + Move.balance name moves)
  /-- What held an integer, or was moved, holds an integer. -/
  integer : ∀ name,
    (name ∈ moves.map Move.name ∨ ∃ n, store.find? name = some (.number (.int n))) →
      ∃ n, last.find? name = some (.number (.int n))
  /-- A name that no move is for keeps what it has. -/
  kept : ∀ name, name ∉ moves.map Move.name → last.find? name = store.find? name

theorem settled_nil (store : Store) : Settled store [] store where
  moved := by
    intro name n whole
    simpa [Move.balance] using whole
  integer := by
    intro name holds
    simpa using holds
  kept := by
    intro name _
    rfl

/-- One move in front of a row. -/
theorem Settled.cons {n : Int} (whole : (store.get move.name).whole? = some n)
    (rest : Settled (store.put move.name (.number (.int (n + move.shift)))) moves last) :
    Settled store (move :: moves) last where
  moved := by
    intro name m start
    by_cases own : name = move.name
    · subst own
      cases whole.symm.trans start
      rw [Move.balance_cons_self, ← Int.add_assoc]
      refine rest.moved move.name _ ?_
      rw [Store.get_put, if_pos rfl]
      rfl
    · rw [Move.balance_cons_of_ne fun same => own same.symm]
      refine rest.moved name m ?_
      rw [Store.get_put, if_neg own]
      exact start
  integer := by
    intro name holds
    refine rest.integer name ?_
    rw [Table.find?_put]
    by_cases own : name = move.name
    · rw [if_pos own]
      exact .inr ⟨_, rfl⟩
    · rw [if_neg own]
      simpa [own] using holds
  kept := by
    intro name untouched
    rw [List.map_cons, List.mem_cons, not_or] at untouched
    rw [rest.kept name untouched.2, Table.find?_put, if_neg untouched.1]

/-- **A row of moves on what counts as integers is carried out as a whole.** -/
theorem applyClauses_moves (whole : ∀ move ∈ moves, ∃ n, (store.get move.name).whole? = some n) :
    ∃ last, applyClauses store (moves.map fun move => move.change.spelling) = (last, none) ∧
      Settled store moves last := by
  induction moves generalizing store with
  | nil => exact ⟨store, rfl, settled_nil store⟩
  | cons move rest ih =>
    rcases List.forall_mem_cons.mp whole with ⟨⟨n, first⟩, others⟩
    have still : ∀ other ∈ rest, ∃ m, (Store.get (store.put move.name
        (.number (.int (n + move.shift)))) other.name).whole? = some m := by
      intro other mem
      rw [Store.get_put]
      split
      · exact ⟨_, rfl⟩
      · exact others other mem
    rcases ih still with ⟨last, done, settled⟩
    exact ⟨last, (applyClauses_cons (applyClause_move first) _).trans done, settled.cons first⟩

/-! ## 3. Rows of effects -/

/-- Carries out effects one after another, until one of them is broken off. -/
def applyAll : List Text → Store → Store × Option Fault
  | [], store => (store, none)
  | effect :: rest, store => andThen (apply effect store) (applyAll rest)

/-- Moves as one effect. -/
def joined (moves : List Move) : Text := join comma (moves.map fun move => move.change.spelling)

/-- A move is written without blanks and commas. -/
theorem plain_spelling {letter : Letter} (mem : letter ∈ move.change.spelling) :
    letter.isChar isBlank = false ∧ letter ≠ .char ',' := by
  have ofChar {c : Char} (char : isNameChar c = true) :
      Letter.isChar isBlank (.char c) = false ∧ Letter.char c ≠ .char ',' := by
    refine ⟨isBlank_of_nameChar char, ?_⟩
    rintro same
    cases same
    contradiction
  rw [Move.spelling_change, List.mem_append, List.mem_cons] at mem
  rcases mem with name | rfl | digits
  · cases letter with
    | char c => exact ofChar (move.chars _ name)
    | half offset => exact absurd (move.chars _ name) Bool.false_ne_true
  · cases move.up <;> decide
  · rcases List.mem_map.mp digits with ⟨c, digit, rfl⟩
    exact ofChar (isNameChar_of_digit (move.digit c digit))

theorem apply_joined (moves : List Move) (store : Store) :
    apply (joined moves) store =
      applyClauses store (moves.map fun move => move.change.spelling) := by
  refine apply_join ?_ store
  intro part mem
  rcases List.mem_map.mp mem with ⟨move, -, rfl⟩
  constructor
  · intro inside
    exact (plain_spelling inside).2 rfl
  · exact stripWhile_eq_self fun letter inside => (plain_spelling inside).1

/-- **Effects one after another are the row of all their moves.** -/
theorem applyAll_joined (groups : List (List Move)) (store : Store) :
    applyAll (groups.map joined) store =
      applyClauses store (groups.flatten.map fun move => move.change.spelling) := by
  induction groups generalizing store with
  | nil => rfl
  | cons group rest ih =>
    rw [List.flatten_cons, List.map_append, applyClauses_concat, List.map_cons, applyAll,
      apply_joined]
    congr 1
    funext left
    exact ih left

/-! ## 4. The sum -/

/-- A move and the move back leave a store as it was. -/
theorem applyClauses_back {move back : Move} {x : Int} (same : back.name = move.name)
    (opposite : back.shift = -move.shift)
    (holds : store.find? move.name = some (.number (.int x))) :
    applyClauses store ([move, back].map fun move => move.change.spelling) = (store, none) := by
  have first : (store.get move.name).whole? = some x := by
    simp [Store.get, holds, Value.whole?]
  have second : (Store.get (store.put move.name (.number (.int (x + move.shift))))
      back.name).whole? = some (x + move.shift) := by
    rw [Store.get_put, if_pos same]
    rfl
  have home : x + move.shift + back.shift = x := by
    rw [opposite]
    omega
  rw [List.map_cons, List.map_singleton, applyClauses_cons (applyClause_move first),
    applyClauses_cons (applyClause_move second), home, same, Table.put_put,
    Table.put_eq_self holds]
  rfl

/-- **Moves add up.**  However moves are ordered and divided into effects, each variable that they
are for ends as the integer that it counted as in the beginning and the sum of its moves; the others
keep what they have.  A move and the move back give the store as it was. -/
theorem moves_add_up {store : Store} {moves : List Move}
    (whole : ∀ move ∈ moves, ∃ n, (store.get move.name).whole? = some n) :
    (∀ groups : List (List Move), groups.flatten.Perm moves →
      ∃ last, applyAll (groups.map joined) store = (last, none) ∧
        (∀ name ∈ moves.map Move.name, ∀ n, (store.get name).whole? = some n →
          last.find? name = some (.number (.int (n + Move.balance name moves)))) ∧
        ∀ name, name ∉ moves.map Move.name → last.find? name = store.find? name) ∧
    ∀ (move back : Move) (x : Int), back.name = move.name → back.shift = -move.shift →
      store.find? move.name = some (.number (.int x)) →
        apply (joined [move, back]) store = (store, none) ∧
          applyAll [joined [move], joined [back]] store = (store, none) := by
  constructor
  · intro groups same
    have whole : ∀ move ∈ groups.flatten, ∃ n, (store.get move.name).whole? = some n :=
      fun move mem => whole move (same.mem_iff.mp mem)
    have names {name : Text} :
        name ∈ groups.flatten.map Move.name ↔ name ∈ moves.map Move.name :=
      (same.map Move.name).mem_iff
    rcases applyClauses_moves whole with ⟨last, done, settled⟩
    refine ⟨last, (applyAll_joined groups store).trans done, ?_, ?_⟩
    · intro name mem n start
      rcases settled.integer name (.inl (names.mpr mem)) with ⟨k, holds⟩
      have moved := settled.moved name n start
      rw [Move.balance_perm same] at moved
      simp only [Store.get, holds, Option.getD_some, Value.whole?, Option.some.injEq] at moved
      rw [holds, moved]
    · intro name untouched
      exact settled.kept name fun mem => untouched (names.mp mem)
  · intro move back x name opposite holds
    have home := applyClauses_back name opposite holds
    exact ⟨(apply_joined [move, back] store).trans home,
      (applyAll_joined [[move], [back]] store).trans home⟩

/-- Ten coins more, written with zeros in front. -/
def earning : Move :=
  ⟨"gold", true, ['0', '1', '0'], by decide, by decide, by decide, by simp [isAsciiDigit],
    by decide⟩

/-- Three coins less. -/
def spending : Move :=
  ⟨"gold", false, ['3'], by decide, by decide, by decide, by simp [isAsciiDigit], by decide⟩

/-- The lamp that is out, counted one up. -/
def lighting : Move :=
  ⟨"lamp", true, ['1'], by decide, by decide, by decide, by simp [isAsciiDigit], by decide⟩

/-- Two torches less, where there are none. -/
def burning : Move :=
  ⟨"torch", false, ['2'], by decide, by decide, by decide, by simp [isAsciiDigit], by decide⟩

/-- Four moves from an integer, a truth value and nothing, in two effects and out of order. -/
theorem moves_add_up_in_purse :
    joined [burning, spending] = "torch-2,gold-3" ∧
      joined [lighting, earning] = "lamp+1,gold+010" ∧
      (∀ move ∈ [earning, spending, lighting, burning],
        ∃ n, (purse.get move.name).whole? = some n) ∧
      ∃ last, applyAll [joined [burning, spending], joined [lighting, earning]] purse =
          (last, none) ∧
        last.find? "gold" = some (.number (.int 17)) ∧
        last.find? "lamp" = some (.number (.int 1)) ∧
        last.find? "torch" = some (.number (.int (-2))) := by
  have whole : ∀ move ∈ [earning, spending, lighting, burning],
      ∃ n, (purse.get move.name).whole? = some n := by
    have each : ∀ move ∈ [earning, spending, lighting, burning],
        (purse.get move.name).whole?.isSome = true := by decide +kernel
    intro move mem
    exact Option.isSome_iff_exists.mp (each move mem)
  have same : [[burning, spending], [lighting, earning]].flatten.Perm
      [earning, spending, lighting, burning] :=
    (List.reverse_perm [earning, lighting, spending, burning]).trans
      ((List.Perm.swap spending lighting [burning]).cons earning)
  rcases (moves_add_up whole).1 _ same with ⟨last, done, moved, -⟩
  refine ⟨by decide +kernel, by decide +kernel, whole, last, done, ?_, ?_, ?_⟩
  · exact moved "gold" (by decide +kernel) 10 (by decide +kernel)
  · exact moved "lamp" (by decide +kernel) 0 (by decide +kernel)
  · exact moved "torch" (by decide +kernel) 0 (by decide +kernel)

end Effect
end Gamebook

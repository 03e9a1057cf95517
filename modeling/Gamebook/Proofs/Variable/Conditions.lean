/-
# Conditions as conjunctions of their parts

A condition holds if every part of it does, where a blank part and a part that is no comparison hold
everywhere (`holds_eq`).  So the parts that are no comparisons might as well not be there
(`holds_without`), and of a store only those names count that comparisons name (`holds_congr`).
-/
import Gamebook.Proofs.Text.Split
import Gamebook.Variable.Condition

namespace Gamebook.Condition

open Text

variable {condition clause part : Text} {store other : Store}

theorem clauseHolds_of_none (none : Comparison.ofClause? clause = none) (store : Store) :
    clauseHolds store clause = true := by
  unfold clauseHolds
  rw [none]

theorem conjuncts_of_blank (blank : isBlankText condition = true) :
    conjuncts condition = [condition] := by
  apply conjuncts_eq_singleton
  intro inside
  have mem : Letter.char '&' ∈ condition := inside.subset (List.mem_cons_self ..)
  have blank := List.all_eq_true.mp blank _ mem
  exact absurd blank (by decide)

/-- **A condition is the conjunction of its parts**, a blank one as well as any other. -/
theorem holds_eq (condition : Text) (store : Store) :
    holds condition store =
      (conjuncts condition).all fun part => clauseHolds store (strip part) := by
  unfold holds clauses
  split
  · rename_i blank
    rw [conjuncts_of_blank blank, List.all_cons, strip_of_blank blank, clauseHolds_of_none rfl]
    rfl
  · rw [List.all_map]
    rfl

/-- A clause by itself is a condition with one part. -/
theorem holds_clause (mem : clause ∈ clauses condition) (store : Store) :
    holds clause store = clauseHolds store clause := by
  unfold clauses at mem
  split at mem
  · contradiction
  · obtain ⟨part, cut, rfl⟩ := List.mem_map.mp mem
    have free : ¬ conjunction <:+: strip part := by
      intro inside
      exact (conjuncts_spec condition).1 part cut (inside.trans (strip_isInfix part))
    rw [holds_eq, conjuncts_eq_singleton free, List.all_cons, strip_strip]
    exact Bool.and_true _

/-! ## 1. Parts that do not count -/

/-- **A part that is no comparison can be taken out** of a condition, together with the conjunction
beside it. -/
theorem holds_without {before after : List Text}
    (cut : conjuncts condition = before ++ part :: after)
    (none : Comparison.ofClause? (strip part) = none) (store : Store) :
    holds (join conjunction (before ++ after)) store = holds condition store := by
  have whole : holds condition store =
      (before ++ after).all fun part => clauseHolds store (strip part) := by
    rw [holds_eq, cut, List.all_append, List.all_append, List.all_cons,
      clauseHolds_of_none none, Bool.true_and]
  rw [whole]
  by_cases only : before ++ after = []
  · rw [only]
    rfl
  · rw [holds_eq, conjuncts_without cut only]

/-! ## 2. Names that count -/

/-- The names that the comparisons of a condition read. -/
def names (condition : Text) : List Text :=
  (clauses condition).filterMap fun clause => (Comparison.ofClause? clause).map Comparison.name

theorem mem_names_iff {name : Text} :
    name ∈ names condition ↔
      ∃ clause ∈ clauses condition, ∃ c, Comparison.ofClause? clause = some c ∧ c.name = name := by
  simp only [names, List.mem_filterMap, Option.map_eq_some_iff]

/-- **A condition reads nothing but the values of its names.** -/
theorem holds_congr (same : ∀ name ∈ names condition, store.get name = other.get name) :
    holds condition store = holds condition other := by
  have each : ∀ clause ∈ clauses condition,
      clauseHolds store clause = clauseHolds other clause := by
    intro clause mem
    unfold clauseHolds
    cases read : Comparison.ofClause? clause with
    | none => rfl
    | some c =>
      have value := same c.name (mem_names_iff.mpr ⟨clause, mem, c, read, rfl⟩)
      simp only [Comparison.holds, value]
  unfold holds
  rw [Bool.eq_iff_iff, List.all_eq_true, List.all_eq_true]
  constructor
  · intro all clause mem
    rw [← each clause mem]
    exact all clause mem
  · intro all clause mem
    rw [each clause mem]
    exact all clause mem

end Gamebook.Condition

/-
# What the review says of conditions and effects

The review reads the conditions and the effects of choices without playing them.  This file proves
that it reads them as play does (`reviewed_review`): what it reports of a clause is true of that
clause in every store.

* **Effects.**  A clause is reported exactly if it does nothing to any store.  A change always does
  something to the empty store, as it writes a name that was not there, or fails
  (`Effect.passes_iff`).
* **Conditions.**  A clause that is reported as unreadable holds in every store, and the condition
  says the same without it.  The names that are looked up among the definitions are the only ones
  on which the condition depends.

All this holds of every report.  But there is none of a story that has a line whose id has too many
digits to be shown: `unreported_at_vastFork` has a clause that does nothing and is not reported.
-/
import Gamebook.Proofs.Variable.Composition
import Gamebook.Proofs.Variable.Conditions
import Gamebook.Story.Problem

namespace Gamebook

open Text

/-! ## 1. Clauses that do nothing -/

namespace Effect

variable {clause effect : Text}

/-- An effect that does nothing to a store. -/
def Passes (effect : Text) (store : Store) : Prop := apply effect store = (store, none)

/-- A clause by itself is an effect with one clause. -/
theorem apply_clause (mem : clause ∈ clauses effect) (store : Store) :
    apply clause store = applyClauses store [clause] := by
  have free : ∀ part ∈ [clause], Letter.char ',' ∉ part ∧ strip part = part := by
    intro part single
    rw [List.mem_singleton.mp single]
    exact plain_of_mem_clauses mem
  have joined := apply_join free store
  simpa [join] using joined

/-- **A clause does nothing to any store exactly if it is no change.** -/
theorem passes_iff (mem : clause ∈ clauses effect) :
    (∀ store, Passes clause store) ↔ Change.ofClause? clause = none := by
  unfold Passes
  simp only [apply_clause mem]
  constructor
  · intro passes
    have empty := passes Table.empty
    cases reads : Change.ofClause? clause with
    | none => rfl
    | some change =>
      cases given : change.value (Store.get Table.empty change.name) with
      | error fault =>
        have failed : applyClause Table.empty clause = .error fault := by
          simp [applyClause, reads, Change.apply, given, bind, Except.bind]
        rw [applyClauses_of_error failed] at empty
        cases empty
      | ok value =>
        have written : applyClause Table.empty clause =
            .ok (Table.empty.put change.name value) := by
          simp [applyClause, reads, Change.apply, given, bind, Except.bind, pure, Except.pure]
        rw [applyClauses_cons written] at empty
        cases empty
  · intro none store
    have passed : applyClause store clause = .ok store := by
      unfold applyClause
      rw [none]
    exact applyClauses_cons passed []

/-- A blank effect does nothing. -/
theorem passes_of_blank (blank : isBlankText effect = true) (store : Store) :
    Passes effect store := by
  unfold Passes apply clauses
  rw [if_pos blank]
  rfl

end Effect

/-! ## 2. The problems of a choice -/

/-- The choice that a problem is one of. -/
def Problem.choice? : Problem → Option Choice
  | .destination choice | .unreadableCondition choice _ | .undefinedVariable choice _
  | .unknownEffect choice _ => some choice
  | .noScenes | .duplicateScene _ | .duplicateVariable _ | .lineScene _ | .emptyGroup ..
  | .speaker _ | .missingEnding _ => none

namespace Story

variable {story : Story} {config : Config} {choice : Choice} {problem : Problem}
  {clause name : Text}

theorem choice?_of_nameProblems (mem : problem ∈ story.nameProblems) : problem.choice? = none := by
  simp only [nameProblems, List.mem_append, List.mem_map] at mem
  rcases mem with (none | ⟨id, -, rfl⟩) | ⟨name, -, rfl⟩
  · split at none
    · rw [List.mem_singleton.mp none]
      rfl
    · contradiction
  · rfl
  · rfl

theorem choice?_of_lineProblems {line : Line} (mem : problem ∈ story.lineProblems line) :
    problem.choice? = none := by
  rcases List.mem_append.mp mem with mem | mem
  · split at mem
    · contradiction
    · rw [List.mem_singleton.mp mem]
      rfl
  · split at mem <;> split at mem
    · contradiction
    · rw [List.mem_singleton.mp mem]
      rfl
    · contradiction
    · rw [List.mem_singleton.mp mem]
      rfl

theorem choice?_of_endingProblems (mem : problem ∈ story.endingProblems config) :
    problem.choice? = none := by
  unfold endingProblems at mem
  split at mem
  · obtain ⟨ending, -, rfl⟩ := List.mem_map.mp mem
    rfl
  · contradiction

theorem mem_conditionProblems_iff :
    problem ∈ story.conditionProblems choice clause ↔
      (Comparison.ofClause? clause = none ∧ problem = .unreadableCondition choice clause) ∨
        ∃ c, Comparison.ofClause? clause = some c ∧
          c.name ∉ story.variableDefs.map VariableDef.name ∧
            problem = .undefinedVariable choice c.name := by
  unfold conditionProblems
  generalize story.variableDefs.map VariableDef.name = defined
  cases Comparison.ofClause? clause with
  | none => simp
  | some c => by_cases known : c.name ∈ defined <;> simp [known]

theorem mem_effectProblems_iff :
    problem ∈ effectProblems choice clause ↔
      Change.ofClause? clause = none ∧ problem = .unknownEffect choice clause := by
  unfold effectProblems
  cases Change.ofClause? clause <;> simp

/-- **What the problems of a choice are.** -/
theorem mem_choiceProblems_iff :
    problem ∈ story.choiceProblems choice ↔
      (problem = .destination choice ∧ choice.leadsToEnding = false ∧
          choice.destination ∉ story.sceneIds) ∨
        (∃ clause ∈ Condition.clauses choice.condition,
          problem ∈ story.conditionProblems choice clause) ∨
        ∃ clause ∈ Effect.clauses choice.effect, problem ∈ effectProblems choice clause := by
  unfold choiceProblems
  rw [List.mem_append, List.mem_append, List.mem_flatMap, List.mem_flatMap, or_assoc]
  refine or_congr_left ?_
  split
  · rename_i leads
    rw [Bool.or_eq_true, List.contains_iff_mem] at leads
    constructor
    · nofun
    · rintro ⟨-, away, missing⟩
      rcases leads with leads | known
      · rw [away] at leads
        contradiction
      · exact absurd known missing
  · rename_i leads
    rw [Bool.or_eq_true, List.contains_iff_mem, not_or, Bool.not_eq_true] at leads
    simp [leads]

theorem choice?_of_choiceProblems (mem : problem ∈ story.choiceProblems choice) :
    problem.choice? = some choice := by
  rcases mem_choiceProblems_iff.mp mem with ⟨rfl, -⟩ | ⟨clause, -, mem⟩ | ⟨clause, -, mem⟩
  · rfl
  · rcases mem_conditionProblems_iff.mp mem with ⟨-, rfl⟩ | ⟨c, -, -, rfl⟩ <;> rfl
  · obtain ⟨-, rfl⟩ := mem_effectProblems_iff.mp mem
    rfl

/-- The problems of a choice are found with that choice, and nowhere else. -/
theorem mem_problems_iff (about : problem.choice? = some choice) :
    problem ∈ story.problems config ↔
      choice ∈ story.choices ∧ problem ∈ story.choiceProblems choice := by
  unfold problems
  rw [List.mem_append, List.mem_append, List.mem_append, List.mem_flatMap, List.mem_flatMap]
  constructor
  · rintro (((mem | ⟨line, -, mem⟩) | ⟨other, known, mem⟩) | mem)
    · rw [choice?_of_nameProblems mem] at about
      contradiction
    · rw [choice?_of_lineProblems mem] at about
      contradiction
    · obtain rfl := Option.some.inj ((choice?_of_choiceProblems mem).symm.trans about)
      exact ⟨known, mem⟩
    · rw [choice?_of_endingProblems mem] at about
      contradiction
  · rintro ⟨known, mem⟩
    exact .inl (.inr ⟨choice, known, mem⟩)

theorem unknownEffect_mem_iff :
    .unknownEffect choice clause ∈ story.problems config ↔
      choice ∈ story.choices ∧ clause ∈ Effect.clauses choice.effect ∧
        Change.ofClause? clause = none := by
  rw [mem_problems_iff rfl, mem_choiceProblems_iff]
  simp only [mem_conditionProblems_iff, mem_effectProblems_iff, reduceCtorEq,
    Problem.unknownEffect.injEq, true_and, false_and, and_false, false_or, or_false, exists_false]
  refine and_congr_right fun _ => ?_
  constructor
  · rintro ⟨other, mem, none, rfl⟩
    exact ⟨mem, none⟩
  · rintro ⟨mem, none⟩
    exact ⟨clause, mem, none, rfl⟩

theorem unreadableCondition_mem_iff :
    .unreadableCondition choice clause ∈ story.problems config ↔
      choice ∈ story.choices ∧ clause ∈ Condition.clauses choice.condition ∧
        Comparison.ofClause? clause = none := by
  rw [mem_problems_iff rfl, mem_choiceProblems_iff]
  simp only [mem_conditionProblems_iff, mem_effectProblems_iff, reduceCtorEq,
    Problem.unreadableCondition.injEq, true_and, false_and, and_false, false_or, or_false,
    exists_false]
  refine and_congr_right fun _ => ?_
  constructor
  · rintro ⟨other, mem, none, rfl⟩
    exact ⟨mem, none⟩
  · rintro ⟨mem, none⟩
    exact ⟨clause, mem, none, rfl⟩

theorem undefinedVariable_mem_iff :
    .undefinedVariable choice name ∈ story.problems config ↔
      choice ∈ story.choices ∧ name ∈ Condition.names choice.condition ∧
        name ∉ story.variableDefs.map VariableDef.name := by
  rw [mem_problems_iff rfl, mem_choiceProblems_iff, Condition.mem_names_iff]
  simp only [mem_conditionProblems_iff, mem_effectProblems_iff, reduceCtorEq,
    Problem.undefinedVariable.injEq, true_and, false_and, and_false, false_or, or_false,
    exists_false]
  refine and_congr_right fun _ => ?_
  constructor
  · rintro ⟨clause, mem, c, read, missing, rfl⟩
    exact ⟨⟨clause, mem, c, read, rfl⟩, missing⟩
  · rintro ⟨⟨clause, mem, c, read, rfl⟩, missing⟩
    exact ⟨clause, mem, c, read, missing, rfl⟩

/-! ## 3. The review and play -/

/-- The review of a story reports a problem. -/
def Reports (story : Story) (config : Config) (problem : Problem) : Prop :=
  ∃ problems, story.review config = .ok problems ∧ problem ∈ problems

/-- **What a report on a choice means for play.** -/
structure Faithful (story : Story) (problems : List Problem) (choice : Choice) : Prop where
  /-- A clause of the effect is reported exactly if it does nothing to any store. -/
  effect : ∀ clause ∈ Effect.clauses choice.effect,
    .unknownEffect choice clause ∈ problems ↔ ∀ store, Effect.Passes clause store
  /-- A clause that is reported as unreadable holds in every store. -/
  unreadable : ∀ clause, .unreadableCondition choice clause ∈ problems →
    ∀ store, Condition.holds clause store = true
  /-- And wherever it stands among the parts of the condition, the others say the same. -/
  without : ∀ before part after, conjuncts choice.condition = before ++ part :: after →
    .unreadableCondition choice (strip part) ∈ problems →
      choice.condition = join conjunction (before ++ part :: after) ∧
        ∀ store, Condition.holds (join conjunction (before ++ after)) store =
          Condition.holds choice.condition store
  /-- The names of the condition are those that are looked up among the definitions. -/
  names : ∀ name, .undefinedVariable choice name ∈ problems ↔
    name ∈ Condition.names choice.condition ∧ name ∉ story.variableDefs.map VariableDef.name
  /-- Stores that agree on them cannot be told apart by the condition. -/
  reads : ∀ store other : Store,
    (∀ name ∈ Condition.names choice.condition, store.get name = other.get name) →
      Condition.holds choice.condition store = Condition.holds choice.condition other
  blankCondition : isBlankText choice.condition = true →
    (∀ clause, .unreadableCondition choice clause ∉ problems) ∧
      (∀ name, .undefinedVariable choice name ∉ problems) ∧
        ∀ store, Condition.holds choice.condition store = true
  blankEffect : isBlankText choice.effect = true →
    (∀ clause, .unknownEffect choice clause ∉ problems) ∧
      ∀ store, Effect.Passes choice.effect store

/-- **What a review of a story comes to.** -/
structure Reviewed (story : Story) (result : Except Fault (List Problem)) : Prop where
  faithful : ∀ problems, result = .ok problems → ∀ choice ∈ story.choices,
    story.Faithful problems choice
  /-- There is a report unless the id of a line has too many digits to be shown. -/
  fails : ∀ fault, result = .error fault ↔
    fault = .tooManyDigits ∧ ∃ line ∈ story.lines, (Number.int line.id).isOverlong = true

theorem clauses_of_blank (blank : isBlankText choice.condition = true) :
    Condition.clauses choice.condition = [] := if_pos blank

theorem faithful_problems (config : Config) (known : choice ∈ story.choices) :
    story.Faithful (story.problems config) choice where
  effect := by
    intro clause mem
    rw [unknownEffect_mem_iff, Effect.passes_iff mem]
    simp [known, mem]
  unreadable := by
    intro clause reported store
    obtain ⟨-, mem, none⟩ := unreadableCondition_mem_iff.mp reported
    rw [Condition.holds_clause mem]
    exact Condition.clauseHolds_of_none none store
  without := by
    intro before part after cut reported
    obtain ⟨-, -, none⟩ := unreadableCondition_mem_iff.mp reported
    refine ⟨?_, Condition.holds_without cut none⟩
    rw [← cut]
    exact (conjuncts_spec choice.condition).2.2.symm
  names := by
    intro name
    rw [undefinedVariable_mem_iff]
    simp [known]
  reads := by
    intro store other same
    exact Condition.holds_congr same
  blankCondition := by
    intro blank
    have none := clauses_of_blank blank
    refine ⟨?_, ?_, ?_⟩
    · intro clause reported
      have mem := (unreadableCondition_mem_iff.mp reported).2.1
      rw [none] at mem
      contradiction
    · intro name reported
      have mem := (undefinedVariable_mem_iff.mp reported).2.1
      rw [Condition.names, none] at mem
      contradiction
    · intro store
      rw [Condition.holds, none]
      rfl
  blankEffect := by
    intro blank
    refine ⟨?_, Effect.passes_of_blank blank⟩
    intro clause reported
    have mem := (unknownEffect_mem_iff.mp reported).2.1
    rw [Effect.clauses, if_pos blank] at mem
    contradiction

/-- **The review reads conditions and effects as play does**, in every story of which it can tell
anything. -/
theorem reviewed_review (story : Story) (config : Config) :
    story.Reviewed (story.review config) := by
  unfold review
  split
  · rename_i long
    rw [List.any_eq_true] at long
    refine ⟨nofun, ?_⟩
    intro fault
    simp only [Except.error.injEq]
    constructor
    · rintro rfl
      exact ⟨rfl, long⟩
    · rintro ⟨rfl, -⟩
      rfl
  · rename_i short
    rw [List.any_eq_true] at short
    constructor
    · intro problems told choice known
      obtain rfl := Except.ok.inj told
      exact faithful_problems config known
    · intro fault
      constructor
      · nofun
      · rintro ⟨-, long⟩
        exact absurd long short

/-- A choice with an effect that nothing recognises. -/
def boosting : Choice :=
  { group := "way", text := "Down", effect := "boost", destination := "fork" }

/-- A story with a gate whose id has more digits than can be shown. -/
def vastFork : Story where
  scenes := [{ id := "fork", name := "Fork" }]
  lines := [{ id := Nat.pow 16 3600 - 1, scene := "fork", speaker := "→CHOICE:way" }]
  choices := [boosting]

/-- **A clause that does nothing and is not reported**, since nothing is. -/
theorem unreported_at_vastFork :
    boosting ∈ vastFork.choices ∧ ("boost" : Text) ∈ Effect.clauses boosting.effect ∧
      vastFork.review {} = .error .tooManyDigits ∧
        ¬ (vastFork.Reports {} (.unknownEffect boosting "boost") ↔
          ∀ store, Effect.Passes "boost" store) := by
  have clause : ("boost" : Text) ∈ Effect.clauses boosting.effect := by decide +kernel
  have silent : vastFork.review {} = .error .tooManyDigits := by
    rw [review, if_pos (by decide +kernel)]
  have passes := (Effect.passes_iff clause).mpr (by decide +kernel)
  refine ⟨List.mem_cons_self .., clause, silent, ?_⟩
  intro agrees
  obtain ⟨problems, told, -⟩ := agrees.mpr passes
  exact absurd (silent.symm.trans told) nofun

end Story
end Gamebook

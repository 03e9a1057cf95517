/-
# Choices that are made by halves

Making a choice at a gate takes three steps: the choice is recorded, its effect is carried out, and
its response and its destination are staged.  The effect and the search for the ending may fail;
this file says when (`Hindrance`), and what is left then (`selected_at_gate`).

* Without a fault all three steps are done, and everybody is told.
* A fault leaves the choice recorded and the clauses before the failing one carried out.  Nothing is
  staged and nobody is told, so that the reader still stands at the gate, with a history that is
  one choice too long.
* So a choice is made as a whole or not at all exactly if nothing hinders it; with an amount of 309
  digits, added to a double, it is neither (`half_made_at_fork`).
-/
import Gamebook.Proofs.Ending
import Gamebook.Proofs.Session.Standing
import Gamebook.Proofs.Variable.Effects

namespace Gamebook.Session

variable {game : Game} {choice : Choice} {s : Session} {o : Outcome} {left : Store} {fault : Fault}

/-- The record of a choice that is made in a session. -/
def record (game : Game) (choice : Choice) (s : Session) : ChoiceRecord :=
  ⟨((s.scene? game).map Scene.name).getD "", choice.text⟩

/-- **What keeps a choice from being carried out as a whole**, the store that is left then, and the
fault. -/
inductive Hindrance (game : Game) (choice : Choice) (s : Session) : Store → Fault → Prop
  /-- A clause of its effect fails on what the clauses before it left. -/
  | effect {before after : List Text} {clause : Text} {change : Change} {left : Store}
      {fault : Fault} (clauses : Effect.clauses choice.effect = before ++ clause :: after)
      (done : Effect.applyClauses s.store before = (left, none))
      (reads : Change.ofClause? clause = some change)
      (fails : change.Fails (left.get change.name) fault) : Hindrance game choice s left fault
  /-- The effect is carried out, but the ending that the variables call for cannot be found: the
  risk may be deadly, and of the risk and the chance for each risk one is an integer beyond the
  doubles and the other one a double. -/
  | ending {left : Store} {fault : Fault}
      (done : Effect.apply choice.effect s.store = (left, none))
      (leads : choice.leadsToEnding = true)
      (risky : (Ending.reading left "risk").lt game.config.riskThreshold = false)
      (apart : (Ending.reading left "risk").mul game.config.deathChancePerRisk = .error fault) :
      Hindrance game choice s left fault

/-- A choice was made as a whole: it is recorded, its effect is carried out, its response and its
destination are staged, and everybody is told. -/
def Whole (game : Game) (choice : Choice) (s : Session) (o : Outcome) : Prop :=
  ∃ store scene source, Effect.apply choice.effect s.store = (store, none) ∧
    (if choice.leadsToEnding then Ending.resolve game.config store s.source
      else .ok (choice.destination, s.source)) = .ok (scene, source) ∧
    o = notify { s with
      history := s.history ++ [s.record game choice]
      store, source, staging := .stage scene (some choice.response) } []

/-- A choice was not made at all. -/
structure Untouched (s : Session) (o : Outcome) : Prop where
  history : o.session.history = s.history
  store : o.session.store = s.store
  staging : o.session.staging = s.staging

/-- **What making a choice at a gate comes to.** -/
structure Selected (game : Game) (choice : Choice) (s : Session) (o : Outcome) : Prop where
  /-- It fails if something hinders it, and only then. -/
  fails : ∀ fault, o.fault = some fault ↔ ∃ left, Hindrance game choice s left fault
  /-- Without a fault it is made as a whole. -/
  whole : o.fault = none → Whole game choice s o
  /-- A fault leaves it recorded and its effect carried out in part, and nothing else is done. -/
  part : ∀ fault, o.fault = some fault → ∃ left, Hindrance game choice s left fault ∧
    o = failed { s with history := s.history ++ [s.record game choice], store := left } fault
  /-- So it is made as a whole or not at all exactly if there is no fault. -/
  atomic : Whole game choice s o ∨ Untouched s o ↔ o.fault = none

/-- The scene of a choice whose effect was carried out. -/
theorem destination_recorded (game : Game) (choice : Choice) (s : Session) :
    (s.recorded game choice).destination game choice =
      if choice.leadsToEnding then
        Ending.resolve game.config (Effect.apply choice.effect s.store).1 s.source
      else .ok (choice.destination, s.source) := rfl

theorem hindrance_iff :
    Hindrance game choice s left fault ↔
      Effect.apply choice.effect s.store = (left, some fault) ∨
        (Effect.apply choice.effect s.store = (left, none) ∧
          (s.recorded game choice).destination game choice = .error fault) := by
  constructor
  · rintro (⟨clauses, done, reads, fails⟩ | ⟨done, leads, risky, apart⟩)
    · exact .inl (Effect.apply_eq_iff.mpr ⟨_, _, _, _, clauses, done, reads, fails⟩)
    · refine .inr ⟨done, ?_⟩
      rw [destination_recorded, if_pos leads, done]
      exact Ending.resolve_eq_error_iff.mpr ⟨risky, apart⟩
  · rintro (broken | ⟨done, lost⟩)
    · obtain ⟨before, clause, after, change, clauses, done, reads, fails⟩ :=
        Effect.apply_eq_iff.mp broken
      exact .effect clauses done reads fails
    · rw [destination_recorded, done] at lost
      split at lost
      · rename_i leads
        obtain ⟨risky, apart⟩ := Ending.resolve_eq_error_iff.mp lost
        exact .ending done leads risky apart
      · contradiction

/-- Of several faults the first one counts. -/
theorem Hindrance.unique {left' : Store} {fault' : Fault} (h : Hindrance game choice s left fault)
    (h' : Hindrance game choice s left' fault') : left' = left ∧ fault' = fault := by
  rcases hindrance_iff.mp h with broken | ⟨done, lost⟩ <;>
    rcases hindrance_iff.mp h' with broken' | ⟨done', lost'⟩
  · simpa using broken'.symm.trans broken
  · simp [broken] at done'
  · simp [done] at broken'
  · rw [lost] at lost'
    refine ⟨by simpa using done'.symm.trans done, (Except.error.inj lost').symm⟩

/-- After a fault a choice is neither made as a whole nor not at all: it is recorded. -/
theorem not_atomic_of_failed {t : Session}
    (longer : t.history = s.history ++ [s.record game choice]) (fault : Fault) :
    ¬ (Whole game choice s (t.failed fault) ∨ Untouched s (t.failed fault)) := by
  rintro (⟨store, scene, source, -, -, eq⟩ | ⟨history, -, -⟩)
  · rw [notify_eq] at eq
    exact absurd (congrArg Outcome.fault eq) nofun
  · have same : s.history ++ [s.record game choice] = s.history := longer.symm.trans history
    simp at same

theorem selected_of_hindrance (h : Hindrance game choice s left fault) :
    Selected game choice s
      (failed { s with history := s.history ++ [s.record game choice], store := left } fault) where
  fails other := by
    constructor
    · intro eq
      obtain rfl : fault = other := Option.some.inj eq
      exact ⟨left, h⟩
    · rintro ⟨left', h'⟩
      rw [(h.unique h').2]
      rfl
  whole := nofun
  part other eq := by
    obtain rfl : fault = other := Option.some.inj eq
    exact ⟨left, h, rfl⟩
  atomic := ⟨fun atomic => absurd atomic (not_atomic_of_failed rfl fault), nofun⟩

/-- **Making a choice at a gate**, in whatever session and with whatever choice. -/
theorem selected_at_gate (game : Game) (choice : Choice) (s : Session) (gate : s.atGate = true) :
    Selected game choice s (s.select game choice) := by
  have applied {fault : Option Fault} (eq : (Effect.apply choice.effect s.store).2 = fault) :
      Effect.apply choice.effect s.store = ((s.recorded game choice).store, fault) := by
    rw [← eq]
    rfl
  have selection := selection_select game choice s
  generalize s.select game choice = o at selection ⊢
  cases selection with
  | ignored away eq => rw [gate] at away; contradiction
  | effectFailed gate fault broken eq =>
    rw [eq]
    exact selected_of_hindrance (hindrance_iff.mpr (.inl (applied broken)))
  | endingFailed gate fault done lost eq =>
    rw [eq]
    exact selected_of_hindrance (hindrance_iff.mpr (.inr ⟨applied done, lost⟩))
  | staged gate scene source done resolved eq =>
    have free : o.fault = none := by rw [eq, notify_eq]
    have whole : Whole game choice s o := by
      refine ⟨_, scene, source, applied done, resolved, eq⟩
    refine ⟨fun fault => ⟨fun failed => ?_, fun ⟨left, h⟩ => ?_⟩, fun _ => whole, ?_,
      fun _ => free, fun _ => .inl whole⟩
    · rw [free] at failed
      contradiction
    · rcases hindrance_iff.mp h with broken | ⟨-, lost⟩
      · rw [applied done] at broken
        simp at broken
      · rw [resolved] at lost
        contradiction
    · intro fault failed
      rw [free] at failed
      contradiction

/-- The road and its fork, with a risk that is a double. -/
def riskyRoad : Game where
  story := { crossroads.story with
    variableDefs := [{ name := "courage", initial := "1" }, { name := "risk", initial := "0.5" }] }
  config := {}

/-- At the fork, after the road was read. -/
def atFork : Session := (fresh .constant).after riskyRoad [.command .start, .command .advance]

/-- Going on with an effect whose second amount is beyond the doubles. -/
def goingTooFar : Choice :=
  { goingOn with
    effect := Text.ofString "courage+1,risk+" ++ List.replicate 309 (Letter.char '9') }

/-- At the fork: the choice is made at a gate, and the lists of what may happen hold of it. -/
theorem selected_at_fork :
    atFork.atGate = true ∧ Selected riskyRoad goingTooFar atFork
      (atFork.select riskyRoad goingTooFar) :=
  ⟨by decide +kernel, selected_at_gate riskyRoad goingTooFar atFork (by decide +kernel)⟩

/-- **A choice that is made by halves**: it is recorded and the first clause of its effect is
carried out, but nothing is staged. -/
theorem half_made_at_fork :
    let o := atFork.select riskyRoad goingTooFar
    (o.fault = some .tooLarge ∧ o.session.history = [atFork.record riskyRoad goingTooFar] ∧
      o.session.store.get "courage" = .number (.int 2) ∧
      o.session.store.get "risk" = atFork.store.get "risk" ∧ o.session.staging = .clear) ∧
      ¬ (Whole riskyRoad goingTooFar atFork o ∨ Untouched atFork o) := by
  intro o
  have half : o.fault = some .tooLarge ∧
      o.session.history = [atFork.record riskyRoad goingTooFar] ∧
      o.session.store.get "courage" = .number (.int 2) ∧
      o.session.store.get "risk" = atFork.store.get "risk" ∧ o.session.staging = .clear := by
    decide +kernel
  refine ⟨half, ?_⟩
  rintro (⟨store, scene, source, -, -, eq⟩ | ⟨history, -, -⟩)
  · have free : o.fault = none := by rw [eq, notify_eq]
    exact Option.some_ne_none _ (half.1.symm.trans free)
  · rw [half.2.1] at history
    exact absurd (congrArg List.length history) (by decide +kernel)

end Gamebook.Session

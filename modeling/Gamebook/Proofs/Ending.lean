/-
# The endings that can be resolved

Whatever the variables and the draws are, an ending that is resolved is one of the four that the
configuration names (`mem_endings_of_resolve`).  There is none only where the chance of death cannot
be computed (`resolve_eq_error_iff`).
-/
import Gamebook.Ending
import Gamebook.Proofs.Number.Arithmetic

namespace Gamebook.Ending

/-- The four endings of a configuration. -/
def endings (config : Config) : List Text :=
  [config.goodEnding, config.neutralEnding, config.badEnding, config.deathEnding]

theorem ofEmotion_mem (config : Config) (emotion : Number) :
    ofEmotion config emotion ∈ endings config := by
  unfold ofEmotion endings
  split
  · simp
  · split <;> simp

theorem mem_endings_of_resolve {config : Config} {store : Store} {source source' : Source}
    {scene : Text} (resolved : resolve config store source = .ok (scene, source')) :
    scene ∈ endings config := by
  have quiet := ofEmotion_mem config (reading store "emotion")
  simp only [resolve, bind, Except.bind, pure, Except.pure] at resolved
  split at resolved
  · contradiction
  · split at resolved
    · obtain ⟨rfl, -⟩ := Prod.mk.inj (Except.ok.inj resolved)
      split
      · simp [endings]
      · exact quiet
    · obtain ⟨rfl, -⟩ := Prod.mk.inj (Except.ok.inj resolved)
      exact quiet

theorem deathChance_eq_error_iff {config : Config} {risk : Number} {fault : Fault} :
    deathChance config risk = .error fault ↔
      risk.lt config.riskThreshold = false ∧ risk.mul config.deathChancePerRisk = .error fault := by
  unfold deathChance
  cases risk.lt config.riskThreshold with
  | true => simp
  | false =>
    cases risk.mul config.deathChancePerRisk <;> simp [bind, Except.bind, pure, Except.pure]

/-- **No ending is resolved** where a risk that may be deadly cannot be multiplied by the chance for
each risk: one of the two is an integer beyond the finite doubles, and the other one is a double. -/
theorem resolve_eq_error_iff {config : Config} {store : Store} {source : Source} {fault : Fault} :
    resolve config store source = .error fault ↔
      (reading store "risk").lt config.riskThreshold = false ∧
        (reading store "risk").mul config.deathChancePerRisk = .error fault := by
  rw [← deathChance_eq_error_iff]
  unfold resolve
  cases deathChance config (reading store "risk") with
  | error other => simp [bind, Except.bind]
  | ok chance =>
    simp only [bind, Except.bind, pure, Except.pure]
    split <;> simp

end Gamebook.Ending

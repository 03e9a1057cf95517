/-
# Which names a store has

A store never loses a name while a story is played: definitions bring their names in
(`contains_ofDefs_iff`), and an effect, broken off or not, only ever writes (`contains_apply`).
-/
import Gamebook.Proofs.Variable.Effects

namespace Gamebook

/-- **A fresh store has exactly the defined names.** -/
theorem Store.contains_ofDefs_iff (defs : List VariableDef) (name : Text) :
    (Store.ofDefs defs).contains name = true ↔ name ∈ defs.map VariableDef.name := by
  unfold Store.ofDefs
  rw [Table.contains_ofList, List.map_map]
  rfl

namespace Effect

/-- **An effect never loses a name**, also when a fault breaks it off. -/
theorem contains_apply {store : Store} {name : Text} (effect : Text)
    (h : store.contains name = true) : (apply effect store).1.contains name = true :=
  applyClauses_induction (P := fun store => store.contains name = true)
    (fun _ change value _ there => Table.contains_put_of_contains there change.name value)
    (clauses effect) h

end Effect
end Gamebook

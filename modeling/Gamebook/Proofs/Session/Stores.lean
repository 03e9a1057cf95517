/-
# The variables of a session

Three commands write the variables of a session: a start sets them as they are defined, a choice
carries out its effect, and a load takes them over (`store_run`).  So what holds of all that
definitions and effects write, whatever was there before (`Written`), holds of the variables of
every session, as long as the saves that are taken up bring nothing else (`Written.run`).

In this way the variables hold truth values and numbers and nothing else (`plain_run`): that is all
that definitions and effects write, and all that a save file may bring (`Save.plain_of_ofBytes`).
So every save can be taken up again.
-/
import Gamebook.Proofs.Session.Saves
import Gamebook.Proofs.Variable.Effects

namespace Gamebook

/-! ## 1. Who writes the variables -/

namespace Session

variable {game : Game} {s : Session}

theorem placeless_store : Placeless Session.store :=
  ⟨fun _ => rfl, fun _ _ _ => rfl, fun _ => rfl, fun _ => rfl, fun _ _ _ _ _ => rfl⟩

/-- **Definitions, effects and saves write the variables**, and nothing else does. -/
theorem store_run (game : Game) (command : Command) (s : Session) :
    (command.run game s).session.store =
      match command with
      | .start => Store.ofDefs game.story.variableDefs
      | .select choice => if s.atGate then (Effect.apply choice.effect s.store).1 else s.store
      | .load save => save.store
      | .advance | .complete | .goTo _ => s.store := by
  rw [placeless_store.run]
  cases command <;> rfl

end Session

/-! ## 2. What is written -/

/-- **What holds of all that is written**: of every variable as it is defined, and of every variable
that a clause changes, whatever it held before. -/
structure Written (holds : Text → Value → Prop) : Prop where
  defined : ∀ d : VariableDef, holds d.name d.value
  changed : ∀ (change : Change) (current value : Value),
    change.value current = .ok value → holds change.name value

namespace Written

variable {holds : Text → Value → Prop} {store : Store}

theorem ofDefs (h : Written holds) (defs : List VariableDef) : (Store.ofDefs defs).All holds :=
  Table.all_ofList (List.forall_mem_map.mpr fun d _ => h.defined d)

/-- An effect leaves what holds of all that is written, also if it is broken off. -/
theorem applyClauses (h : Written holds) (clauses : List Text) (before : store.All holds) :
    (Effect.applyClauses store clauses).1.All holds :=
  Effect.applyClauses_induction (P := fun store => store.All holds)
    (fun _ change value given before => before.put (h.changed change _ value given)) clauses before

/-- **Whatever is done**, the variables of a session are such as are written. -/
theorem run {game : Game} {command : Command} {s : Session} (h : Written holds)
    (before : s.store.All holds) (loads : ∀ save, command = .load save → save.store.All holds) :
    (command.run game s).session.store.All holds := by
  rw [Session.store_run]
  cases command with
  | start => exact h.ofDefs _
  | select choice =>
    simp only
    split
    · exact h.applyClauses _ before
    · exact before
  | load save => exact loads save rfl
  | advance => exact before
  | complete => exact before
  | goTo scene => exact before

end Written

/-! ## 3. Plain values -/

/-- That an entry of a store is plain. -/
abbrev PlainEntry (_ : Text) (value : Value) : Prop := value.isPlain = true

theorem Store.plain_iff {store : Store} : store.Plain ↔ store.All PlainEntry := Iff.rfl

theorem VariableDef.plain_value (d : VariableDef) : d.value.isPlain = true := by
  unfold VariableDef.value
  split
  · rfl
  · split <;> rfl

theorem Change.plain_value {change : Change} {current value : Value}
    (given : change.value current = .ok value) : value.isPlain = true := by
  cases change with
  | setBool name b => cases given; rfl
  | setNumber name digits =>
    obtain ⟨n, -, given⟩ := bind_ok_iff.mp given
    cases given
    rfl
  | increase name digits | decrease name digits =>
    obtain ⟨n, -, given⟩ := bind_ok_iff.mp given
    obtain ⟨sum, -, given⟩ := bind_ok_iff.mp given
    cases given
    rfl

/-- Definitions and effects write plain values only. -/
theorem written_plain : Written PlainEntry where
  defined := VariableDef.plain_value
  changed _ _ _ := Change.plain_value

namespace Save

theorem plain_of_namedValue? {entry : Atom × Datum} {value : Text × Value}
    (read : namedValue? entry = .ok value) : value.2.isPlain = true := by
  unfold namedValue? at read
  split at read
  · obtain rfl := Except.ok.inj read
    rfl
  · obtain rfl := Except.ok.inj read
    rfl
  · contradiction

theorem plain_of_mapM {entries : Fields Datum} {values : List (Text × Value)}
    (read : entries.mapM namedValue? = .ok values) :
    ∀ entry ∈ values, entry.2.isPlain = true := by
  induction entries generalizing values with
  | nil =>
    obtain rfl := Except.ok.inj read
    exact fun entry mem => absurd mem List.not_mem_nil
  | cons entry rest ih =>
    rw [List.mapM_cons] at read
    obtain ⟨head, first, read⟩ := bind_ok_iff.mp read
    obtain ⟨tail, others, read⟩ := bind_ok_iff.mp read
    obtain rfl := Except.ok.inj read
    exact List.forall_mem_cons.mpr ⟨plain_of_namedValue? first, ih others⟩

theorem plain_of_storeOf {fields : Fields Datum} {store : Store}
    (read : storeOf fields = .ok store) : store.Plain := by
  rw [Store.plain_iff]
  unfold storeOf at read
  split at read
  · obtain rfl := Except.ok.inj read
    exact Table.all_empty
  · split at read
    · obtain rfl := Except.ok.inj read
      exact Table.all_empty
    · split at read
      · rename_i found entries _ _
        cases each : List.mapM namedValue? entries with
        | error flaw =>
          rw [each] at read
          contradiction
        | ok values =>
          rw [each] at read
          obtain rfl := Except.ok.inj read
          exact Table.all_ofList (plain_of_mapM each)
      · contradiction

theorem plain_of_ofDatum {document : Datum} {save : Save} (read : ofDatum document = .ok save) :
    save.store.Plain := by
  unfold ofDatum at read
  split at read
  · obtain ⟨scene, -, read⟩ := bind_ok_iff.mp read
    obtain ⟨index, -, read⟩ := bind_ok_iff.mp read
    obtain ⟨store, stored, read⟩ := bind_ok_iff.mp read
    obtain rfl := Except.ok.inj read
    exact plain_of_storeOf stored
  · contradiction

/-- **A save file brings plain values only.** -/
theorem plain_of_ofBytes {content : Bytes} {save : Save} (read : ofBytes content = .ok save) :
    save.store.Plain := by
  obtain ⟨text, -, read⟩ := bind_ok_iff.mp read
  obtain ⟨document, -, read⟩ := bind_ok_iff.mp read
  cases accepted : ofDatum document with
  | error flaw =>
    rw [accepted] at read
    contradiction
  | ok accepted' =>
    rw [accepted] at read
    obtain rfl := Except.ok.inj read
    exact plain_of_ofDatum accepted

end Save

/-- **Whatever is done, the variables of a session are plain.** -/
theorem Session.plain_run {game : Game} {command : Command} {s : Session} (h : s.store.Plain)
    (loads : ∀ save, command = .load save → save.store.Plain) :
    (command.run game s).session.store.Plain :=
  written_plain.run h loads

end Gamebook

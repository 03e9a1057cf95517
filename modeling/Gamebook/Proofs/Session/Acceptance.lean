/-
# Which documents are saves

A save is taken up from a document, and documents may hold anything.  This file settles which of
them are saves (`Save.Format`), what is wrong with each of the others (`Save.Misfit`), and that one
which is no save leaves a session as it was; all of that for every document, in `judged_ofDatum`.

* **Flaws.**  Of several flaws the first in the order scene, place, variables is found, and among
  the variables the first in the order of the document (`ofDatum_eq_error_iff`).
* **Wording.**  What was found is part of the wording of a flaw, and it can be shown unless an
  integer in it has too many digits or it is nested too deeply (`Flaw.failsExactly_message`).  So
  there are documents that are refused without being told of the field (`unnamed_in_vastScene`).
* **Loading.**  A document is read before anything is written; and what is written has the place of
  the save, forced among the lines of its scene (`clampIndex_eq`).
-/
import Gamebook.Proofs.Json.Depth
import Gamebook.Proofs.Session.Notices
import Gamebook.Proofs.Session.Stores

namespace Gamebook

open Literal

/-! ## 1. The save format -/

/-- **What counts as nothing**: null, a false truth value, a zero, or something empty. -/
inductive Datum.Void : Datum → Prop
  | null : Void (.atom .null)
  | no : Void (.atom (.bool false))
  | zero : Void (.int 0)
  | zeroDouble (negative : Bool) : Void (.atom (.number (.double (.zero negative))))
  | text : Void (.text [])
  | bytes : Void (.atom (.bytes []))
  | list : Void (.list [])
  | map : Void (.map [])

theorem Number.same_zero (n : Number) : n.same .zero = true ↔ n.position = some (.at 0) := by
  have zero : position .zero = some (.at 0) := by
    rw [Number.zero, position, Int.zero_mul]
  unfold same related
  rw [zero]
  cases n.position with
  | none => exact iff_of_false nofun nofun
  | some p => exact decide_eq_true_iff.trans Option.some_inj.symm

theorem Number.same_zero_iff {n : Number} :
    n.same .zero = true ↔ n = .int 0 ∨ ∃ negative, n = .double (.zero negative) := by
  rw [same_zero]
  cases n with
  | int n =>
    have scaled : n * (unitsPerOne : Int) = 0 ↔ n = 0 :=
      Int.mul_eq_zero.trans (or_iff_left (Int.natCast_ne_zero.mpr unitsPerOne_pos.ne'))
    simp only [position, Option.some_inj, Position.at.injEq, scaled, Number.int.injEq, reduceCtorEq,
      exists_false, or_false]
  | double x =>
    cases x with
    | finite negative units fits =>
      have none : Binary64.signedUnits negative units = 0 ↔ units = 0 := by
        cases negative <;> simp [Binary64.signedUnits]
      simp [position, none, Binary64.zero]
    | infinite negative => cases negative <;> simp [position, Binary64.zero]
    | nan => simp [position, Binary64.zero]

namespace Save

variable {document found : Datum} {fields : Fields Datum} {flaw : Flaw} {fault : Fault}

theorem isVoid_iff : isVoid found = true ↔ found.Void := by
  constructor
  · intro void
    cases found with
    | atom a =>
      cases a with
      | null => exact .null
      | bool b =>
        obtain rfl : b = false := by simpa [isVoid] using void
        exact .no
      | number n =>
        rcases Number.same_zero_iff.mp void with rfl | ⟨negative, rfl⟩
        · exact .zero
        · exact .zeroDouble negative
      | text t =>
        obtain rfl : t = [] := by simpa [isVoid] using void
        exact .text
      | bytes bs =>
        obtain rfl : bs = [] := by simpa [isVoid] using void
        exact .bytes
      | date d => contradiction
      | moment m => contradiction
    | list items =>
      obtain rfl : items = [] := by simpa [isVoid] using void
      exact .list
    | map fields =>
      obtain rfl : fields = [] := by simpa [isVoid] using void
      exact .map
  · intro void
    cases void with
    | zero => exact Number.same_zero_iff.mpr (.inl rfl)
    | zeroDouble negative => exact Number.same_zero_iff.mpr (.inr ⟨negative, rfl⟩)
    | null | no | text | bytes | list | map => rfl

/-- An entry of the variables: a text with a truth value or a number. -/
def EntryFits (entry : Atom × Datum) : Prop :=
  ∃ name, entry.1 = .text name ∧
    ((∃ b, entry.2 = .atom (.bool b)) ∨ ∃ n, entry.2 = .atom (.number n))

/-- A scene: a text. -/
def SceneFits (found : Datum) : Prop := ∃ t, found = .text t

/-- A place: an integer.  A truth value is none. -/
def IndexFits (found : Datum) : Prop := ∃ n, found = .int n

/-- Variables: a mapping of such entries, or what counts as nothing. -/
def StoreFits (found : Datum) : Prop :=
  found.Void ∨ ∃ entries, found = .map entries ∧ ∀ entry ∈ entries, EntryFits entry

/-- What is found under a name, if anything is, fits. -/
def FieldFits (fields : Fields Datum) (name : Text) (fits : Datum → Prop) : Prop :=
  ∀ found, fields.named? name = some found → fits found

/-- **The save format.** -/
structure Format (fields : Fields Datum) : Prop where
  scene : FieldFits fields "scene_id" SceneFits
  index : FieldFits fields "dialogue_index" IndexFits
  store : FieldFits fields "variables" StoreFits

/-- **The first thing that is wrong with a document** that is no save. -/
inductive Misfit : Datum → Flaw → Prop
  | notMapping {document : Datum} (other : ∀ fields, document ≠ .map fields) :
      Misfit document .notMapping
  | scene {fields : Fields Datum} {found : Datum}
      (there : fields.named? "scene_id" = some found) (misfit : ¬ SceneFits found) :
      Misfit (.map fields) (.scene found)
  | index {fields : Fields Datum} {found : Datum}
      (scene : FieldFits fields "scene_id" SceneFits)
      (there : fields.named? "dialogue_index" = some found) (misfit : ¬ IndexFits found) :
      Misfit (.map fields) (.index found)
  | store {fields : Fields Datum} {found : Datum}
      (scene : FieldFits fields "scene_id" SceneFits)
      (index : FieldFits fields "dialogue_index" IndexFits)
      (there : fields.named? "variables" = some found) (full : ¬ found.Void)
      (other : ∀ entries, found ≠ .map entries) : Misfit (.map fields) (.store found)
  | entry {fields before after : Fields Datum} {name : Atom} {value : Datum}
      (scene : FieldFits fields "scene_id" SceneFits)
      (index : FieldFits fields "dialogue_index" IndexFits)
      (there : fields.named? "variables" = some (.map (before ++ (name, value) :: after)))
      (fits : ∀ entry ∈ before, EntryFits entry) (misfit : ¬ EntryFits (name, value)) :
      Misfit (.map fields) (.variable name value)

/-! ## 2. Reading -/

theorem sceneOf_eq_error_iff :
    sceneOf fields = .error flaw ↔
      ∃ found, fields.named? "scene_id" = some found ∧ ¬ SceneFits found ∧
        flaw = .scene found := by
  unfold sceneOf
  split
  · rename_i missing
    simp [missing]
  · rename_i t there
    simp [there, SceneFits, Datum.text]
  · rename_i found other there
    have misfit : ¬ SceneFits found := by
      rintro ⟨t, rfl⟩
      exact other t rfl
    simp [there, misfit, eq_comm]

theorem indexOf_eq_error_iff :
    indexOf fields = .error flaw ↔
      ∃ found, fields.named? "dialogue_index" = some found ∧ ¬ IndexFits found ∧
        flaw = .index found := by
  unfold indexOf
  split
  · rename_i missing
    simp [missing]
  · rename_i n there
    simp [there, IndexFits, Datum.int]
  · rename_i found other there
    have misfit : ¬ IndexFits found := by
      rintro ⟨n, rfl⟩
      exact other n rfl
    simp [there, misfit, eq_comm]

theorem namedValue?_eq_error_iff {entry : Atom × Datum} :
    namedValue? entry = .error flaw ↔
      ¬ EntryFits entry ∧ flaw = .variable entry.1 entry.2 := by
  unfold namedValue?
  split
  · simp [EntryFits]
  · simp [EntryFits]
  · rename_i name value noTruth noNumber
    have misfit : ¬ EntryFits (name, value) := by
      rintro ⟨t, rfl, ⟨b, rfl⟩ | ⟨n, rfl⟩⟩
      · exact noTruth t b rfl rfl
      · exact noNumber t n rfl rfl
    simp [misfit, eq_comm]

theorem namedValue?_eq_ok_iff {entry : Atom × Datum} :
    (∃ value, namedValue? entry = .ok value) ↔ EntryFits entry := by
  cases read : namedValue? entry with
  | ok value =>
    refine iff_of_true ⟨value, rfl⟩ ?_
    by_contra misfit
    rw [namedValue?_eq_error_iff.mpr ⟨misfit, rfl⟩] at read
    contradiction
  | error flaw =>
    refine iff_of_false ?_ (namedValue?_eq_error_iff.mp read).1
    rintro ⟨value, done⟩
    contradiction

theorem mapM_namedValue?_eq_error_iff {entries : Fields Datum} :
    entries.mapM namedValue? = .error flaw ↔
      ∃ before name value after, entries = before ++ (name, value) :: after ∧
        (∀ entry ∈ before, EntryFits entry) ∧ ¬ EntryFits (name, value) ∧
          flaw = .variable name value := by
  rw [mapM_error_iff]
  constructor
  · rintro ⟨before, ⟨name, value⟩, after, split, readable, failed⟩
    obtain ⟨misfit, rfl⟩ := namedValue?_eq_error_iff.mp failed
    exact ⟨before, name, value, after, split,
      fun entry mem => namedValue?_eq_ok_iff.mp (readable entry mem), misfit, rfl⟩
  · rintro ⟨before, name, value, after, split, fits, misfit, rfl⟩
    exact ⟨before, (name, value), after, split,
      fun entry mem => namedValue?_eq_ok_iff.mpr (fits entry mem),
      namedValue?_eq_error_iff.mpr ⟨misfit, rfl⟩⟩

theorem storeOf_eq_error_iff :
    storeOf fields = .error flaw ↔
      (∃ found, fields.named? "variables" = some found ∧ ¬ found.Void ∧
        (∀ entries, found ≠ .map entries) ∧ flaw = .store found) ∨
      ∃ entries, fields.named? "variables" = some (.map entries) ∧
        entries.mapM namedValue? = .error flaw := by
  unfold storeOf
  split
  · rename_i missing
    simp [missing]
  · rename_i found there
    split
    · rename_i void
      have void := isVoid_iff.mp void
      refine iff_of_false nofun ?_
      rintro (⟨other, there', full, -⟩ | ⟨entries, there', failed⟩)
      · obtain rfl := Option.some.inj (there.symm.trans there')
        exact full void
      · obtain rfl := Option.some.inj (there.symm.trans there')
        cases void
        contradiction
    · rename_i full
      have full : ¬ found.Void := fun void => full (isVoid_iff.mpr void)
      split
      · rename_i entries _
        rw [there]
        cases read : entries.mapM namedValue? with
        | ok values => simp [Except.map, read]
        | error other => simp [Except.map, read, eq_comm]
      · rename_i other
        have other : ∀ entries, found ≠ .map entries := fun entries same => other entries same
        rw [there]
        constructor
        · intro failed
          obtain rfl := Except.error.inj failed
          exact .inl ⟨found, rfl, full, other, rfl⟩
        · rintro (⟨_, same, -, -, rfl⟩ | ⟨entries, same, -⟩)
          · obtain rfl := Option.some.inj same
            rfl
          · exact absurd (Option.some.inj same) (other entries)

theorem not_fieldFits_iff {name : Text} {fits : Datum → Prop} :
    ¬ FieldFits fields name fits ↔ ∃ found, fields.named? name = some found ∧ ¬ fits found := by
  simp [FieldFits]

/-- A field is read exactly if it fits, provided that it is refused exactly if it does not. -/
theorem exists_ok_iff_fieldFits {α : Type} {read : Except Flaw α} {name : Text}
    {fits : Datum → Prop} {blame : Datum → Flaw}
    (errors : ∀ flaw, read = .error flaw ↔
      ∃ found, fields.named? name = some found ∧ ¬ fits found ∧ flaw = blame found) :
    (∃ a, read = .ok a) ↔ FieldFits fields name fits := by
  rw [← not_iff_not, ← exists_error_iff, not_fieldFits_iff]
  simp only [errors]
  constructor
  · rintro ⟨_, found, there, misfit, -⟩
    exact ⟨found, there, misfit⟩
  · rintro ⟨found, there, misfit⟩
    exact ⟨_, found, there, misfit, rfl⟩

theorem sceneOf_eq_ok_iff :
    (∃ scene, sceneOf fields = .ok scene) ↔ FieldFits fields "scene_id" SceneFits :=
  exists_ok_iff_fieldFits fun _ => sceneOf_eq_error_iff

theorem indexOf_eq_ok_iff :
    (∃ index, indexOf fields = .ok index) ↔ FieldFits fields "dialogue_index" IndexFits :=
  exists_ok_iff_fieldFits fun _ => indexOf_eq_error_iff

/-- The entries of a mapping are read if all of them fit. -/
theorem mapM_namedValue?_eq_ok_iff {entries : Fields Datum} :
    (∃ values, entries.mapM namedValue? = .ok values) ↔ ∀ entry ∈ entries, EntryFits entry := by
  rw [exists_mapM_ok_iff]
  simp only [namedValue?_eq_ok_iff]

theorem storeOf_eq_ok_iff :
    (∃ store, storeOf fields = .ok store) ↔ FieldFits fields "variables" StoreFits := by
  rw [← not_iff_not, ← exists_error_iff, not_fieldFits_iff]
  simp only [storeOf_eq_error_iff]
  constructor
  · rintro ⟨flaw, ⟨found, there, full, other, -⟩ | ⟨entries, there, failed⟩⟩
    · refine ⟨found, there, ?_⟩
      rintro (void | ⟨entries, rfl, -⟩)
      · exact full void
      · exact other entries rfl
    · refine ⟨_, there, ?_⟩
      rintro (void | ⟨_, same, fits⟩)
      · cases void
        contradiction
      · cases same
        exact exists_error_iff.mp ⟨flaw, failed⟩ (mapM_namedValue?_eq_ok_iff.mpr fits)
  · rintro ⟨found, there, misfit⟩
    have full : ¬ found.Void := fun void => misfit (.inl void)
    by_cases mapping : ∃ entries, found = .map entries
    · obtain ⟨entries, rfl⟩ := mapping
      have unread : ¬ ∃ values, entries.mapM namedValue? = .ok values := fun read =>
        misfit (.inr ⟨entries, rfl, mapM_namedValue?_eq_ok_iff.mp read⟩)
      obtain ⟨flaw, failed⟩ := exists_error_iff.mpr unread
      exact ⟨flaw, .inr ⟨entries, there, failed⟩⟩
    · exact ⟨_, .inl ⟨found, there, full, fun entries same => mapping ⟨entries, same⟩, rfl⟩⟩

/-- **Exactly the save format is accepted.** -/
theorem ofDatum_eq_ok_iff :
    (∃ save, ofDatum document = .ok save) ↔ ∃ fields, document = .map fields ∧ Format fields := by
  cases document with
  | map fields =>
    have parts : (∃ save, ofDatum (.map fields) = .ok save) ↔
        (∃ scene, sceneOf fields = .ok scene) ∧ (∃ index, indexOf fields = .ok index) ∧
          ∃ store, storeOf fields = .ok store := by
      simp only [ofDatum, bind_ok_iff]
      constructor
      · rintro ⟨save, scene, first, index, second, store, third, -⟩
        exact ⟨⟨scene, first⟩, ⟨index, second⟩, ⟨store, third⟩⟩
      · rintro ⟨⟨scene, first⟩, ⟨index, second⟩, ⟨store, third⟩⟩
        exact ⟨_, scene, first, index, second, store, third, rfl⟩
    rw [parts, sceneOf_eq_ok_iff, indexOf_eq_ok_iff, storeOf_eq_ok_iff]
    constructor
    · rintro ⟨scene, index, store⟩
      exact ⟨fields, rfl, scene, index, store⟩
    · rintro ⟨_, same, scene, index, store⟩
      cases same
      exact ⟨scene, index, store⟩
  | atom a | list items => simp [ofDatum]

/-- **The first flaw is found**, and nothing else is called one. -/
theorem ofDatum_eq_error_iff : ofDatum document = .error flaw ↔ Misfit document flaw := by
  cases document with
  | map fields =>
    simp only [ofDatum, bind_error_iff]
    constructor
    · rintro (failed | ⟨scene, first, failed | ⟨index, second, failed | ⟨store, third, done⟩⟩⟩)
      · obtain ⟨found, there, misfit, rfl⟩ := sceneOf_eq_error_iff.mp failed
        exact .scene there misfit
      · obtain ⟨found, there, misfit, rfl⟩ := indexOf_eq_error_iff.mp failed
        exact .index (sceneOf_eq_ok_iff.mp ⟨scene, first⟩) there misfit
      · have scene := sceneOf_eq_ok_iff.mp ⟨scene, first⟩
        have index := indexOf_eq_ok_iff.mp ⟨index, second⟩
        rcases storeOf_eq_error_iff.mp failed with
          ⟨found, there, full, other, rfl⟩ | ⟨entries, there, failed⟩
        · exact .store scene index there full other
        · obtain ⟨before, name, value, after, rfl, fits, misfit, rfl⟩ :=
            mapM_namedValue?_eq_error_iff.mp failed
          exact .entry scene index there fits misfit
      · cases done
    · intro misfit
      cases misfit with
      | notMapping other => exact absurd rfl (other fields)
      | scene there misfit => exact .inl (sceneOf_eq_error_iff.mpr ⟨_, there, misfit, rfl⟩)
      | index scene there misfit =>
        obtain ⟨scene, first⟩ := sceneOf_eq_ok_iff.mpr scene
        exact .inr ⟨scene, first, .inl (indexOf_eq_error_iff.mpr ⟨_, there, misfit, rfl⟩)⟩
      | store scene index there full other =>
        obtain ⟨scene, first⟩ := sceneOf_eq_ok_iff.mpr scene
        obtain ⟨index, second⟩ := indexOf_eq_ok_iff.mpr index
        exact .inr ⟨scene, first, .inr ⟨index, second,
          .inl (storeOf_eq_error_iff.mpr (.inl ⟨_, there, full, other, rfl⟩))⟩⟩
      | entry scene index there fits misfit =>
        obtain ⟨scene, first⟩ := sceneOf_eq_ok_iff.mpr scene
        obtain ⟨index, second⟩ := indexOf_eq_ok_iff.mpr index
        refine .inr ⟨scene, first, .inr ⟨index, second,
          .inl (storeOf_eq_error_iff.mpr (.inr ⟨_, there, ?_⟩))⟩⟩
        exact mapM_namedValue?_eq_error_iff.mpr ⟨_, _, _, _, rfl, fits, misfit, rfl⟩
  | atom a | list items =>
    constructor
    · intro failed
      cases failed
      refine .notMapping fun fields same => ?_
      cases same
    · intro misfit
      cases misfit
      rfl

end Save

/-! ## 3. Wording -/

namespace Save

/-- What was found in place of something that fits. -/
def Flaw.found : Flaw → List Datum
  | .notMapping => []
  | .scene found | .index found | .store found => [found]
  | .variable name value => [.atom name, value]

/-- **A flaw cannot be put into words if what was found cannot be shown**, and for no other
reason. -/
theorem Flaw.failsExactly_message (flaw : Flaw) :
    FailsExactly flaw.message fun fault =>
      ∃ found ∈ flaw.found, found.Unshowable shownLimit fault := by
  cases flaw with
  | notMapping => exact (FailsExactly.ok _).congr (by simp [Flaw.found])
  | scene d | index d | store d =>
    exact (d.failsExactly_shown.bind fun _ => FailsExactly.ok _).congr (by simp [Flaw.found])
  | «variable» name value =>
    refine (name.failsExactly_shown.bind fun _ =>
      value.failsExactly_shown.bind fun _ => FailsExactly.ok _).congr fun fault => ?_
    have room : 0 < shownLimit := Nat.succ_pos _
    simp [Flaw.found, Datum.unshowable_atom_iff room]

/-- What was found lies in the document. -/
theorem Misfit.nests {document found : Datum} {flaw : Flaw} {depth : Nat}
    (misfit : Misfit document flaw) (mem : found ∈ flaw.found) (deep : found.Nests depth) :
    document.Nests depth := by
  cases misfit with
  | notMapping other => contradiction
  | scene there misfit | index scene there misfit | store scene index there full other =>
    obtain rfl := List.mem_singleton.mp mem
    obtain ⟨entry, mem', rfl⟩ := Fields.mem_of_named? there
    exact deep.of_value mem'
  | entry scene index there fits misfit =>
    obtain ⟨entry, mem', same⟩ := Fields.mem_of_named? there
    rcases List.mem_pair.mp mem with rfl | rfl
    · exact deep.of_atom
    · refine Datum.Nests.of_value ?_ mem'
      rw [same]
      exact deep.of_value (List.mem_append_right _ (List.mem_cons_self ..))

/-- A save file that is flawed holds a document with that flaw. -/
theorem exists_ofDatum_of_flawed {content : Bytes} {flaw : Flaw}
    (refused : ofBytes content = .error (.flawed flaw)) :
    ∃ text document, Json.read text = .ok document ∧ ofDatum document = .error flaw := by
  obtain failed | ⟨text, -, refused⟩ := bind_error_iff.mp refused
  · obtain ⟨_, -, other⟩ := mapError_error_iff.mp failed
    cases other
  · obtain failed | ⟨document, read, refused⟩ := bind_error_iff.mp refused
    · obtain ⟨_, -, other⟩ := mapError_error_iff.mp failed
      cases other
    · obtain ⟨_, refused, same⟩ := mapError_error_iff.mp refused
      cases same
      exact ⟨_, document, mapError_ok_iff.mp read, refused⟩

/-- **Telling what is wrong with a save file never goes too deep**: the file is read no deeper than
it can be shown. -/
theorem fault?_of_flawed {content : Bytes} {flaw : Flaw}
    (refused : ofBytes content = .error (.flawed flaw)) :
    (Unreadable.flawed flaw).fault? = none := by
  obtain ⟨text, document, read, refused⟩ := exists_ofDatum_of_flawed refused
  have shallow : ¬ document.Nests shownLimit := Json.not_nests_of_read read
  unfold Unreadable.fault?
  dsimp only
  split
  · rename_i untold
    obtain ⟨found, mem, ⟨same, -⟩ | ⟨-, deep⟩⟩ := flaw.failsExactly_message.only _ untold
    · cases same
    · exact absurd ((ofDatum_eq_error_iff.mp refused).nests mem deep) shallow
  · rfl

/-! ## 4. What is read -/

/-- A variable as an entry of a document. -/
def entryOf (named : Text × Value) : Atom × Datum := (.text named.1, .atom (.ofValue named.2))

/-- **What a save takes from a document**: the scene, the place and the variables as they are
there, and otherwise no scene, the first place and no variables. -/
structure Takes (fields : Fields Datum) (save : Save) : Prop where
  scene : .text save.scene = (fields.named? "scene_id").getD (.text [])
  index : .int save.index = (fields.named? "dialogue_index").getD (.int 0)
  store : ∃ values, save.store = Table.ofList values ∧
    (fields.named? "variables" = some (.map (values.map entryOf)) ∨
      values = [] ∧ ∀ found, fields.named? "variables" = some found → found.Void)

theorem eq_entryOf {entry : Atom × Datum} {named : Text × Value}
    (read : namedValue? entry = .ok named) : entry = entryOf named := by
  unfold namedValue? at read
  split at read
  · obtain rfl := Except.ok.inj read
    rfl
  · obtain rfl := Except.ok.inj read
    rfl
  · contradiction

theorem eq_map_entryOf {entries : Fields Datum} {values : List (Text × Value)}
    (read : entries.mapM namedValue? = .ok values) : entries = values.map entryOf := by
  have each : List.Forall₂ (fun entry named => entry = entryOf named) entries values :=
    (mapM_ok_iff.mp read).imp fun _ _ => eq_entryOf
  have mapped := List.forall₂_map_right_iff.mpr each
  rwa [List.forall₂_eq_eq_eq] at mapped

theorem takes_of_ofDatum {save : Save} (read : ofDatum (.map fields) = .ok save) :
    Takes fields save := by
  obtain ⟨scene, first, read⟩ := bind_ok_iff.mp read
  obtain ⟨index, second, read⟩ := bind_ok_iff.mp read
  obtain ⟨store, third, read⟩ := bind_ok_iff.mp read
  obtain rfl := Except.ok.inj read
  refine ⟨?_, ?_, ?_⟩
  · unfold sceneOf at first
    split at first
    · rename_i missing
      obtain rfl := Except.ok.inj first
      rw [missing]
      rfl
    · rename_i t there
      obtain rfl := Except.ok.inj first
      rw [there]
      rfl
    · contradiction
  · unfold indexOf at second
    split at second
    · rename_i missing
      obtain rfl := Except.ok.inj second
      rw [missing]
      rfl
    · rename_i n there
      obtain rfl := Except.ok.inj second
      rw [there]
      rfl
    · contradiction
  · unfold storeOf at third
    split at third
    · rename_i missing
      obtain rfl := Except.ok.inj third
      exact ⟨[], rfl, .inr ⟨rfl, fun found there => nomatch missing.symm.trans there⟩⟩
    · rename_i found there
      split at third
      · rename_i void
        obtain rfl := Except.ok.inj third
        refine ⟨[], rfl, .inr ⟨rfl, fun other there' => ?_⟩⟩
        obtain rfl := Option.some.inj (there.symm.trans there')
        exact isVoid_iff.mp void
      · split at third
        · rename_i entries _
          cases each : List.mapM namedValue? entries with
          | error flaw =>
            rw [each] at third
            contradiction
          | ok values =>
            rw [each] at third
            obtain rfl := Except.ok.inj third
            rw [there, eq_map_entryOf each]
            exact ⟨values, rfl, .inl rfl⟩
        · contradiction

end Save

/-! ## 5. Loading -/

/-- **The place of a save is forced among the lines of its scene**, whatever integer it is. -/
theorem Session.clampIndex_eq (index : Int) (lines : List Line) :
    (clampIndex index lines : Int) = max 0 (min index (max (lines.length - 1) 0)) := by
  unfold clampIndex
  omega

namespace Save

/-- **What becomes of a document** that is taken for a save. -/
structure Judged (document : Datum) : Prop where
  /-- It is accepted exactly if it has the save format. -/
  accepts : (∃ save, ofDatum document = .ok save) ↔
    ∃ fields, document = .map fields ∧ Format fields
  /-- Otherwise the first flaw of it is found. -/
  refuses : ∀ flaw, ofDatum document = .error flaw ↔ Misfit document flaw
  /-- That is put into words, unless what was found cannot be shown: there are too many digits in
  it, or it is nested too deeply. -/
  tells : ∀ flaw, ofDatum document = .error flaw →
    FailsExactly flaw.message fun fault =>
      ∃ found ∈ flaw.found, found.Unshowable shownLimit fault
  /-- A save takes what is there. -/
  takes : ∀ fields save, document = .map fields → ofDatum document = .ok save → Takes fields save
  /-- A save that is written down is read back as it was. -/
  readsBack : ∀ save, ofDatum document = .ok save → ofDatum save.toDatum = .ok save
  /-- Taking the document up fails if it is no save, and only then. -/
  fails : ∀ (game : Game) (s : Session) (breach : Breach),
    (Act.carry (Act.restore game document) { session := s }).1 = .error breach ↔
      ∃ flaw, breach = .flaw flaw ∧ ofDatum document = .error flaw
  /-- Where it fails nothing was written, and nobody was called. -/
  atomic : ∀ (game : Game) (s : Session) (breach : Breach),
    (Act.carry (Act.restore game document) { session := s }).1 = .error breach →
      (Act.carry (Act.restore game document) { session := s }).2 = { session := s }
  /-- Otherwise the session is at the scene of the save, as near to its place as there are lines. -/
  places : ∀ (game : Game) (s : Session) (save : Save), ofDatum document = .ok save →
    let t := (Act.carry (Act.restore game document) { session := s }).2.session
    t.scene = save.scene ∧ t.lines = game.story.linesOf save.scene ∧ t.store = save.store ∧
      (t.index : Int) = max 0 (min save.index (max (t.lines.length - 1) 0))

theorem carry_restore_of_ok {document : Datum} {save : Save} (read : ofDatum document = .ok save)
    (game : Game) (s : Session) :
    Act.carry (Act.restore game document) { session := s } =
      (.ok (), Live.notified { session := s } (s.resumed game save) []) := by
  simp only [Act.restore, read, Act.load, Act.carry_bind, Act.carry_write, Act.carry_notify]
  rfl

theorem carry_restore_of_error {document : Datum} {flaw : Flaw}
    (refused : ofDatum document = .error flaw) (game : Game) (s : Session) :
    Act.carry (Act.restore game document) { session := s } =
      (.error (.flaw flaw), { session := s }) := by
  simp only [Act.restore, refused, Act.carry_throw]

/-- **Exactly the saves are accepted, and everything else is refused before anything is done.**  For
every document: which flaw is found in it if it is no save, what is taken from it if it is one, and
what becomes of a session that takes it up. -/
theorem judged_ofDatum (document : Datum) : Judged document where
  accepts := ofDatum_eq_ok_iff
  refuses _ := ofDatum_eq_error_iff
  tells flaw _ := flaw.failsExactly_message
  takes := by
    rintro fields save rfl read
    exact takes_of_ofDatum read
  readsBack save read := ofDatum_toDatum (plain_of_ofDatum read)
  fails game s breach := by
    cases read : ofDatum document with
    | ok save => simp [carry_restore_of_ok read]
    | error flaw =>
      rw [carry_restore_of_error read]
      simp [eq_comm]
  atomic game s breach broken := by
    cases read : ofDatum document with
    | ok save =>
      rw [carry_restore_of_ok read] at broken
      contradiction
    | error flaw => rw [carry_restore_of_error read]
  places game s save read := by
    rw [carry_restore_of_ok read]
    exact ⟨rfl, rfl, rfl, Session.clampIndex_eq save.index _⟩

/-- A document with a number of 4301 digits in place of the scene. -/
def vastScene : Datum := .map [(.text "scene_id", .int (Nat.pow 10 digitLimit))]

/-- **A document that is refused without a word about its field.** -/
theorem unnamed_in_vastScene :
    ∃ flaw, ofDatum vastScene = .error flaw ∧ flaw.field = some "scene_id" ∧
      flaw.message = .error .tooManyDigits := by
  have found : Misfit vastScene (.scene (.int (Nat.pow 10 digitLimit))) := by
    refine .scene rfl ?_
    rintro ⟨t, same⟩
    cases same
  refine ⟨_, ofDatum_eq_error_iff.mpr found, rfl, ?_⟩
  have long : (Number.int (Nat.pow 10 digitLimit)).isOverlong = true := by decide +kernel
  exact bind_error_iff.mpr (.inl (Datum.shown_of_isOverlong long))

end Save
end Gamebook

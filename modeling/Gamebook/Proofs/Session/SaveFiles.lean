/-
# Save files

A save that was written as a whole is read from its file as it was (`Save.ofBytes_written`), and so
a session can be taken up from what is on the disk as from the save itself.

The bytes are read as the text, no line end is changed on the way, since what is written has no
carriage return (`Clean`), the text is decoded as the document (`Save.spell_pieces`), and the
document is accepted as the save.
-/
import Gamebook.Proofs.Json.Objects
import Gamebook.Proofs.Session.Saves
import Gamebook.Proofs.Text.Utf8
import Mathlib.Data.List.Forall2

namespace Gamebook

open Text

/-! ## 1. Line ends -/

namespace Text

/-- A text without carriage returns has line feeds only. -/
theorem withLineFeeds_eq_self {cs : List Char} (feeds : '\r' ∉ cs) : withLineFeeds cs = cs := by
  induction cs with
  | nil => rfl
  | cons c cs ih =>
    rw [List.mem_cons, not_or] at feeds
    obtain ⟨other, feeds⟩ := feeds
    have other : c ≠ '\r' := fun same => other same.symm
    rw [withLineFeeds, ih feeds]
    · exact fun _ same _ => other same
    · exact other

end Text

namespace Json

/-- Nothing that pieces are written as has a carriage return. -/
def Clean (pieces : Pieces) : Prop := ∀ text, .ok text ∈ pieces → '\r' ∉ text.toList

theorem clean_append {pieces others : Pieces} (first : Clean pieces) (more : Clean others) :
    Clean (pieces ++ others) := by
  intro text mem
  rcases List.mem_append.mp mem with mem | mem
  · exact first text mem
  · exact more text mem

theorem clean_cons {piece : Except Fault String} {pieces : Pieces}
    (first : ∀ text, piece = .ok text → '\r' ∉ text.toList) (more : Clean pieces) :
    Clean (piece :: pieces) := by
  intro text mem
  rcases List.mem_cons.mp mem with same | mem
  · exact first text same.symm
  · exact more text mem

theorem Clean.writes {pieces : Pieces} (clean : Clean pieces) {text : List Char}
    (writes : Writes pieces text) : '\r' ∉ text := by
  induction pieces generalizing text with
  | nil =>
    rw [writes_nil writes]
    exact List.not_mem_nil
  | cons piece pieces ih =>
    obtain ⟨first, more, rfl, rest, rfl⟩ := writes_cons writes
    rw [List.mem_append, not_or]
    exact ⟨clean first List.mem_cons_self,
      ih (fun text mem => clean text (List.mem_cons_of_mem _ mem)) rest⟩

theorem clean_newLine (k : Nat) : '\r' ∉ (newLine k).toList := by
  simp [newLine]

theorem clean_escapedChar (c : Char) : '\r' ∉ escapedChar c := by
  have codes : ∀ n < 0x20, '\r' ∉ hexDigits 4 n := by decide
  fun_cases escapedChar c with
  | case8 =>
    rename_i control
    simpa using codes c.toNat control
  | case9 =>
    rename_i other _ _ _ _
    simpa using fun same => other same.symm
  | _ => decide

theorem clean_renderText {t : Text} {text : String} (written : renderText t = .ok text) :
    '\r' ∉ text.toList := by
  unfold renderText at written
  split at written
  · cases written
    simp [clean_escapedChar]
  · contradiction

theorem clean_spelled {n : Numeral} (proper : n.Proper) : '\r' ∉ n.spelled := by
  have other : ∀ c ∈ n.spelled, c ≠ '\r' := by
    refine forall_spelled proper ?_ (by decide)
    rintro _ digit rfl
    exact absurd digit (by decide)
  exact fun mem => other _ mem rfl

theorem clean_renderNumber {n : Number} {text : String} (written : renderNumber n = .ok text) :
    '\r' ∉ text.toList := by
  unfold renderNumber at written
  split at written
  · contradiction
  · cases n with
    | int n =>
      cases written
      rw [toList_toString_int]
      exact clean_spelled (proper_ofInt n)
    | double x =>
      cases written
      cases x with
      | nan => decide
      | infinite negative => cases negative <;> decide
      | finite negative units fits =>
        rw [render_finite]
        exact clean_spelled (proper_ofUnits negative fits)

theorem clean_renderValue {v : Value} {text : String} (written : renderValue v = .ok text) :
    '\r' ∉ text.toList := by
  cases v with
  | null => cases written; decide
  | bool b => cases written; cases b <;> decide
  | number n => exact clean_renderNumber written
  | text t => exact clean_renderText written

theorem clean_memberPieces (k : Nat) {before : String} (start : '\r' ∉ before.toList)
    {members : List (Text × Pieces)} (clean : ∀ member ∈ members, Clean member.2) :
    Clean (memberPieces k before members) := by
  induction members generalizing before with
  | nil => nofun
  | cons member members ih =>
    obtain ⟨first, others⟩ := List.forall_mem_cons.mp clean
    refine clean_append (clean_cons ?_ (clean_cons (fun _ => clean_renderText)
      (clean_cons ?_ first))) (ih (by decide) others)
    · rintro _ ⟨⟩
      simp [start, clean_newLine]
    · rintro _ ⟨⟩
      decide

theorem clean_objectPieces (k : Nat) {members : List (Text × Pieces)}
    (clean : ∀ member ∈ members, Clean member.2) : Clean (objectPieces k members) := by
  unfold objectPieces
  split
  · exact clean_cons (by rintro _ ⟨⟩; decide) nofun
  · refine clean_append (clean_memberPieces k (by decide) clean) (clean_cons ?_ nofun)
    rintro _ ⟨⟩
    simp [clean_newLine]

/-- An object begins with its brace. -/
theorem head_objectPieces {k : Nat} {members : List (Text × Pieces)} {text : List Char}
    (writes : Writes (objectPieces k members) text) : text.head? = some '\x7b' := by
  cases members with
  | nil =>
    obtain ⟨_, braces, rfl⟩ := writes_single writes
    cases braces
    rfl
  | cons member members =>
    obtain ⟨_, _, opened, -, rfl⟩ := writes_append writes
    obtain ⟨_, _, line, -, rfl⟩ := writes_cons opened
    cases line
    simp

end Json

/-! ## 2. Saves -/

namespace Save

open Json

variable {save : Save}

/-- The variables are read as they are written. -/
theorem spell_store (store : Store) :
    Spell 986 (objectPieces 1
      (store.entries.map fun (name, value) => (name, [renderValue value])))
      (.map (store.entries.map fun (name, value) => (.text name, .atom (.ofValue value)))) := by
  have each : List.Forall₂ (Spells 985)
      (store.entries.map fun (name, value) => (name, [renderValue value]))
      (store.entries.map fun (name, value) => (.text name, .atom (.ofValue value))) := by
    rw [List.forall₂_map_left_iff, List.forall₂_map_right_iff, List.forall₂_same]
    exact fun entry _ => ⟨rfl, spell_value 985 entry.2⟩
  have names : Fields.ofEntries
      (store.entries.map fun (name, value) => (Atom.text name, Datum.atom (.ofValue value))) =
        store.entries.map fun (name, value) => (.text name, .atom (.ofValue value)) := by
    have distinct : ((store.entries.map fun (name, value) =>
        (name, Datum.atom (.ofValue value))).map Prod.fst).Nodup := by
      rw [List.map_map]
      exact store.distinct
    have same := Fields.ofEntries_names distinct
    rw [List.map_map] at same
    exact same
  have spelled := spell_object (k := 1) each
  rw [names] at spelled
  exact spelled

/-- What a save is written as is read as its document. -/
theorem spell_pieces (save : Save) : Spell depthLimit save.pieces save.toDatum := by
  have members : List.Forall₂ (Spells 986)
      [("scene_id", [renderText save.scene]), ("dialogue_index", [renderNumber (.int save.index)]),
        ("variables", objectPieces 1
          (save.store.entries.map fun (name, value) => (name, [renderValue value])))]
      [(.text "scene_id", .text save.scene), (.text "dialogue_index", .int save.index),
        (.text "variables", .map
          (save.store.entries.map fun (name, value) => (.text name, .atom (.ofValue value))))] :=
    .cons ⟨rfl, spell_text 986 save.scene⟩ (.cons ⟨rfl, spell_number 986 (.int save.index)⟩
      (.cons ⟨rfl, spell_store save.store⟩ .nil))
  have spelled : Spell (986 + 1) (objectPieces 0 _) _ := spell_object members
  exact spelled

/-- **A save file is read as it was written**, if it was written as a whole. -/
theorem ofBytes_written (plain : save.store.Plain) (whole : save.written.2 = none) :
    ofBytes (Utf8.encode save.written.1.toList) = .ok save := by
  have writes : Writes save.pieces save.written.1.toList :=
    ⟨save.written.1, Prod.ext rfl whole, rfl⟩
  have clean : Clean save.pieces := by
    have store : Clean (objectPieces 1
        (save.store.entries.map fun (name, value) => (name, [renderValue value]))) := by
      refine clean_objectPieces 1 (List.forall_mem_map.mpr fun entry _ => ?_)
      exact clean_cons (fun _ => clean_renderValue) nofun
    refine clean_objectPieces 0 ?_
    simp only [List.forall_mem_cons]
    exact ⟨clean_cons (fun _ => clean_renderText) nofun,
      clean_cons (fun _ => clean_renderNumber) nofun, store, nofun⟩
  have read : Json.read save.written.1.toList = .ok save.toDatum := by
    refine read_of_writes (spell_pieces save) writes ?_
    rw [head_objectPieces writes]
    decide
  unfold ofBytes
  rw [Utf8.decode_encode]
  simp only [Except.mapError, bind, Except.bind, withLineFeeds_eq_self (clean.writes writes), read]
  rw [ofDatum_toDatum plain]

end Save
end Gamebook

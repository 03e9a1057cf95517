/-
# Taking up a save

A save keeps three fields of a session: the scene, the index and the variables.  This file settles
that they are enough.  `takesUp_after` says that a save, taken up by whatever session of the game,
puts those fields back exactly; and that, if nothing was staged when it was made, the session that
takes it up goes on in every way as the one that was saved.

The argument has three parts.

* A load puts back what was saved (`Standing.resumed_save`): the lines are cached as those of the
  scene, and the index of a session that stands well is its own clamp.
* What a save leaves out is never looked at (`Alike.trace_eq`), but for the staging; and where
  nothing is staged the staging is that of a load (`Staging.Unambiguous.eq_clear`).
* A save that is written down as a document is read back as it was (`Save.ofDatum_toDatum`), as
  long as its variables are such as a document may hold.
-/
import Gamebook.Proofs.Session.Alike
import Gamebook.Proofs.Session.Standing
import Gamebook.Proofs.Table

namespace Gamebook

/-! ## 1. Documents -/

/-- Whether a save document may hold a value: a truth value or a number. -/
def Value.isPlain : Value → Bool
  | .bool _ | .number _ => true
  | .null | .text _ => false

/-- A store of values that a save document may hold. -/
def Store.Plain (store : Store) : Prop := ∀ entry ∈ store.entries, entry.2.isPlain = true

instance (store : Store) : Decidable store.Plain :=
  inferInstanceAs (Decidable (∀ entry ∈ store.entries, entry.2.isPlain = true))

namespace Save

theorem namedValue?_ofValue {value : Value} (plain : value.isPlain = true) (name : Text) :
    namedValue? (.text name, .atom (.ofValue value)) = .ok (name, value) := by
  cases value with
  | bool b => rfl
  | number n => rfl
  | null => contradiction
  | text t => contradiction

/-- The entries that variables are written as are read as the same variables. -/
theorem mapM_namedValue? (entries : List (Text × Value))
    (plain : ∀ entry ∈ entries, entry.2.isPlain = true) :
    (entries.map fun (name, value) => (Atom.text name, Datum.atom (.ofValue value))).mapM
      namedValue? = .ok entries := by
  induction entries with
  | nil => rfl
  | cons entry rest ih =>
    obtain ⟨name, value⟩ := entry
    have first := namedValue?_ofValue (plain _ (List.mem_cons_self ..)) name
    have others := ih fun entry mem => plain entry (List.mem_cons_of_mem _ mem)
    rw [List.map_cons, List.mapM_cons, first, others]
    rfl

/-- Variables are read back from a document that has them written down. -/
theorem storeOf_eq {store : Store} (plain : store.Plain) {fields : Fields Datum}
    (found : fields.named? "variables" =
      some (.map (store.entries.map fun (name, value) => (.text name, .atom (.ofValue value))))) :
    storeOf fields = .ok store := by
  rw [storeOf, found]
  simp only
  split
  · rename_i void
    have none : store.entries = [] := by simpa [isVoid] using void
    exact congrArg Except.ok (Table.eq_of_entries none.symm)
  · rw [mapM_namedValue? store.entries plain]
    exact congrArg Except.ok (Table.ofList_entries store)

/-- **A save is read back as it was written.** -/
theorem ofDatum_toDatum {save : Save} (plain : save.store.Plain) :
    ofDatum save.toDatum = .ok save := by
  rw [toDatum, ofDatum, storeOf_eq plain rfl]
  rfl

end Save

/-! ## 2. What a load puts back -/

/-- With nothing staged the staging is clear. -/
theorem Staging.Unambiguous.eq_clear {staging : Staging} (h : staging.Unambiguous)
    (free : staging.isStaged = false) : staging = .clear := by
  rw [h.isStaged_eq, Bool.or_eq_false_iff, Option.isSome_eq_false_iff, Option.isSome_eq_false_iff,
    Option.isNone_iff_eq_none, Option.isNone_iff_eq_none] at free
  obtain ⟨response, destination⟩ := staging
  obtain ⟨rfl, rfl⟩ := free
  rfl

namespace Session

variable {game : Game} {a : Session}

/-- The index of a session that stands well is its own clamp. -/
theorem Standing.clampIndex_eq (h : Standing game a) : clampIndex a.index a.lines = a.index := by
  cases lines : a.lines with
  | nil => rw [clampIndex_nil, h.unread lines]
  | cons line rest =>
    have inside := h.inside (by simp [lines])
    rw [lines] at inside
    unfold clampIndex
    omega

/-- **A load puts back what was saved**, whatever the session that takes the save up. -/
theorem Standing.resumed_save (h : Standing game a) (entered : a.scene ≠ []) (b : Session) :
    b.resumed game a.save =
      { b with
        scene := a.scene, lines := a.lines, index := a.index, store := a.store, staging := .clear
        endingReported := a.inEnding game } := by
  have lines : game.story.linesOf a.scene = a.lines := by
    rcases h.cached with cached | ⟨nowhere, -⟩
    · exact cached.symm
    · exact absurd nowhere entered
  simp only [resumed, save, lines, h.clampIndex_eq]
  rfl

/-! ## 3. Going on from a save -/

/-- **What taking up a save comes to**: `a` was saved, `b` took the save up and is `t` now. -/
structure TakesUp (game : Game) (a b t : Session) : Prop where
  scene : t.scene = a.scene
  lines : t.lines = a.lines
  index : t.index = a.index
  store : t.store = a.store
  staging : t.staging = .clear
  history : t.history = b.history
  /-- With nothing staged in the saved session, the other one looks the same. -/
  looks : a.staging.isStaged = false → t.view game = a.view game
  /-- And it goes on the same, if the draws to come are the same. -/
  goesOn : a.staging.isStaged = false → ∀ source source' : Source, source.SameDraws source' →
    ∀ commands : List Command,
      trace game commands { t with source } = trace game commands { a with source := source' }

/-- A session that took up a save with nothing staged is alike to the one that was saved, given
the same draws. -/
theorem Standing.alike_load (h : Standing game a) (entered : a.scene ≠ [])
    (free : a.staging.isStaged = false) (b : Session) {source source' : Source}
    (draws : source.SameDraws source') :
    Alike { (b.load game a.save).session with source } { a with source := source' } := by
  rw [load_eq, h.resumed_save entered]
  exact ⟨rfl, rfl, rfl, rfl, (h.unambiguous.eq_clear free).symm, draws⟩

theorem Standing.takesUp_load (h : Standing game a) (entered : a.scene ≠ []) (b : Session) :
    TakesUp game a b (b.load game a.save).session where
  scene := rfl
  lines := by rw [load_eq, h.resumed_save entered]; rfl
  index := by rw [load_eq, h.resumed_save entered]; rfl
  store := rfl
  staging := rfl
  history := rfl
  looks := fun free => (h.alike_load entered free b (.refl a.source)).view_eq
  goesOn := fun free _ _ draws commands => (h.alike_load entered free b draws).trace_eq commands

/-- **A save is all that is needed to go on.**  Whatever was done to a session before it was saved,
and whatever was done to the one that takes the save up, the latter resumes the former; and it does
so as well when the save is written down as a document in between. -/
theorem takesUp_after (game : Game) (source : Source) (steps : List Step) (b : Session)
    (entered : ((fresh source).after game steps).scene ≠ []) :
    let a := (fresh source).after game steps
    TakesUp game a b (b.load game a.save).session ∧
      (a.store.Plain → ∃ save, Save.ofDatum a.save.toDatum = .ok save ∧
        TakesUp game a b (b.load game save).session) := by
  intro a
  have takesUp : TakesUp game a b (b.load game a.save).session :=
    (standing_of_run game source steps).takesUp_load entered b
  exact ⟨takesUp, fun plain => ⟨a.save, Save.ofDatum_toDatum plain, takesUp⟩⟩

/-- A session at the fork is saved, and the save is taken up, by way of a document, by one in which
a choice was made already: both go on the same. -/
theorem takesUp_at_fork :
    let a := (fresh .constant).after crossroads [.command .start, .command .advance]
    let b := (fresh .constant).after crossroads
      [.command .start, .command .advance, .command (.select goingOn)]
    a.scene ≠ [] ∧ a.staging.isStaged = false ∧ a.store.Plain ∧ b.staging.isStaged = true ∧
      ∃ save, Save.ofDatum a.save.toDatum = .ok save ∧
        (b.load crossroads save).session.history = b.history ∧
        ∀ commands,
          trace crossroads commands { (b.load crossroads save).session with source := .constant } =
            trace crossroads commands { a with source := .constant } := by
  intro a b
  have free : a.staging.isStaged = false := by decide +kernel
  have plain : a.store.Plain := by decide +kernel
  obtain ⟨-, documented⟩ := takesUp_after crossroads .constant
    [.command .start, .command .advance] b (by decide +kernel)
  obtain ⟨save, read, takesUp⟩ := documented plain
  exact ⟨by decide +kernel, free, plain, by decide +kernel, save, read, takesUp.history,
    takesUp.goesOn free .constant .constant fun _ => rfl⟩

end Session
end Gamebook

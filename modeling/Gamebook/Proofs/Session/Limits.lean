/-
# Sessions within limits

In a game of moderate numbers (`Game.Modest`) the variables of a session move away from zero by a
bounded amount with each choice and by nothing otherwise.  So, as long as the limit is below
`nearLimit`, no command fails (`Session.Within.run`), and what is saved can be written as a whole
(`Save.Within.written`).

Texts are kept as well: a scene whose name has half of a surrogate pair cannot be written to a file,
and such a scene could be entered by what is staged or taken up from a save.
-/
import Gamebook.Proofs.Ending
import Gamebook.Proofs.Session.Stores
import Gamebook.Proofs.Variable.Limits

namespace Gamebook

open Number

variable {limit more initial stride : Nat}

/-! ## 1. Saves -/

namespace Json

/-- All pieces of a file can be written. -/
def Writable (pieces : Pieces) : Prop := ∀ piece ∈ pieces, ∃ text, piece = .ok text

theorem written_of_writable {pieces : Pieces} (h : Writable pieces) : pieces.written.2 = none := by
  induction pieces with
  | nil => rfl
  | cons piece rest ih =>
    obtain ⟨⟨text, rfl⟩, others⟩ := List.forall_mem_cons.mp h
    exact ih others

theorem wholeChars?_of_isWhole {t : Text} (whole : t.isWhole = true) :
    ∃ cs, wholeChars? t = some cs := by
  induction t with
  | nil => exact ⟨[], rfl⟩
  | cons letter t ih =>
    obtain ⟨first, others⟩ := Bool.and_eq_true_iff.mp whole
    obtain ⟨cs, rest⟩ := ih others
    unfold wholeChars? at rest
    cases letter with
    | half offset => contradiction
    | char c => exact ⟨c :: cs, by simp [wholeChars?, List.mapM_cons, rest]⟩

theorem renderText_of_isWhole {t : Text} (whole : t.isWhole = true) :
    ∃ text, renderText t = .ok text := by
  obtain ⟨cs, chars⟩ := wholeChars?_of_isWhole whole
  unfold renderText
  rw [chars]
  exact ⟨_, rfl⟩

theorem renderNumber_of_short {n : Number} (short : n.isOverlong = false) :
    ∃ text, renderNumber n = .ok text := by
  unfold renderNumber
  rw [short, if_neg Bool.false_ne_true]
  cases n with
  | int n => exact ⟨_, rfl⟩
  | double x => exact ⟨_, rfl⟩

theorem writable_single {piece : Except Fault String} (h : ∃ text, piece = .ok text) :
    Writable [piece] :=
  List.forall_mem_singleton.mpr h

theorem writable_objectPieces {members : List (Text × Pieces)}
    (named : ∀ member ∈ members, member.1.isWhole = true)
    (valued : ∀ member ∈ members, Writable member.2) (depth : Nat) :
    Writable (objectPieces depth members) := by
  have inner (before : String) : Writable (memberPieces depth before members) := by
    induction members generalizing before with
    | nil => nofun
    | cons member members ih =>
      obtain ⟨name, names⟩ := List.forall_mem_cons.mp named
      obtain ⟨value, values⟩ := List.forall_mem_cons.mp valued
      refine List.forall_mem_append.mpr ⟨?_, ih names values _⟩
      exact List.forall_mem_cons.mpr ⟨⟨_, rfl⟩, List.forall_mem_cons.mpr
        ⟨renderText_of_isWhole name, List.forall_mem_cons.mpr ⟨⟨_, rfl⟩, value⟩⟩⟩
  unfold objectPieces
  split
  · exact writable_single ⟨_, rfl⟩
  · exact List.forall_mem_append.mpr ⟨inner _, writable_single ⟨_, rfl⟩⟩

end Json

/-- A number within a near limit is not too long to be read and written. -/
theorem Number.Within.not_overlong {n : Number} (h : n.Within limit) (small : limit < nearLimit) :
    n.isOverlong = false := by
  cases n with
  | int n => exact not_overlong_of_lt (Nat.lt_of_le_of_lt h small)
  | double x => rfl

theorem Value.Within.not_overlong {v : Value} (h : v.Within limit) (small : limit < nearLimit) :
    v.isOverlong = false := by
  cases v with
  | bool b => rfl
  | number n => exact Number.Within.not_overlong h small
  | null => rfl
  | text t => rfl

theorem Value.Within.isPlain {v : Value} (h : v.Within limit) : v.isPlain = true := by
  cases v with
  | bool b => rfl
  | number n => rfl
  | null => exact h.elim
  | text t => exact h.elim

theorem Value.Within.render {v : Value} (h : v.Within limit) (small : limit < nearLimit) :
    ∃ text, Json.renderValue v = .ok text := by
  cases v with
  | bool b => exact ⟨_, rfl⟩
  | number n => exact Json.renderNumber_of_short (Number.Within.not_overlong h small)
  | null => exact h.elim
  | text t => exact h.elim

theorem Store.Within.plain {store : Store} (h : store.Within limit) : store.Plain :=
  Store.plain_iff.mpr (h.imp fun _ _ within => within.2.isPlain)

/-- What is kept of a save. -/
structure Save.Within (limit : Nat) (save : Save) : Prop where
  scene : save.scene.isWhole = true
  store : save.store.Within limit

theorem Save.Within.mono {save : Save} (h : save.Within limit) (le : limit ≤ more) :
    save.Within more := ⟨h.scene, h.store.mono le⟩

/-- **A save within near limits is written as a whole.** -/
theorem Save.Within.written {save : Save} (h : save.Within limit) (small : limit < nearLimit)
    (index : save.index.natAbs < nearLimit) : save.written.2 = none := by
  have place : Json.Writable [Json.renderNumber (.int save.index)] :=
    Json.writable_single (Json.renderNumber_of_short (not_overlong_of_lt index))
  have scene : Json.Writable [Json.renderText save.scene] :=
    Json.writable_single (Json.renderText_of_isWhole h.scene)
  refine Json.written_of_writable (Json.writable_objectPieces ?_ ?_ 0)
  · simp only [List.forall_mem_cons]
    exact ⟨rfl, rfl, rfl, nofun⟩
  · simp only [List.forall_mem_cons]
    refine ⟨scene, place, Json.writable_objectPieces ?_ ?_ 1, nofun⟩
    · exact List.forall_mem_map.mpr fun entry mem => (h.store entry mem).1
    · exact List.forall_mem_map.mpr fun entry mem =>
        Json.writable_single (Value.Within.render (h.store entry mem).2 small)

/-! ## 2. Games -/

/-- **A game of moderate numbers.**  Its configuration is the default one, its variables are within
`initial` at first, and no choice moves them by more than `stride`; all that may be written to a
file can be. -/
structure Game.Modest (initial stride : Nat) (game : Game) : Prop where
  config : game.config = {}
  lines : game.story.lines.length < nearLimit
  scenes : ∀ scene ∈ game.story.scenes, scene.id.isWhole = true
  defs : ∀ d ∈ game.story.variableDefs, d.name.isWhole = true ∧ d.value.Within initial
  destinations : ∀ choice ∈ game.story.choices, choice.destination.isWhole = true
  short : ∀ choice ∈ game.story.choices,
    ∀ change ∈ Effect.changes (Effect.clauses choice.effect), change.isShort = true
  small : ∀ choice ∈ game.story.choices, Effect.reach (Effect.clauses choice.effect) ≤ stride

section

variable {game : Game} {choice : Choice} {store : Store}

theorem Game.Modest.ofDefs (modest : game.Modest initial stride) :
    Store.Within initial (Store.ofDefs game.story.variableDefs) :=
  Table.all_ofList (List.forall_mem_map.mpr fun d mem => modest.defs d mem)

/-- With the default configuration the endings can be written to a file. -/
theorem isWhole_of_resolve {source source' : Source} {scene : Text}
    (resolved : Ending.resolve {} store source = .ok (scene, source')) :
    scene.isWhole = true := by
  have named : ∀ scene ∈ Ending.endings {}, scene.isWhole = true := by decide +kernel
  exact named scene (Ending.mem_endings_of_resolve resolved)

/-- With the default configuration an ending is found whenever the risk is within a near limit. -/
theorem Store.Within.resolves (h : store.Within limit) (positive : 0 < limit)
    (small : limit < nearLimit) (source : Source) :
    ∃ found, Ending.resolve {} store source = .ok found := by
  cases resolved : Ending.resolve {} store source with
  | ok found => exact ⟨found, rfl⟩
  | error fault =>
    obtain ⟨-, apart⟩ := Ending.resolve_eq_error_iff.mp resolved
    obtain ⟨-, ⟨beyond, -⟩ | ⟨beyond, -⟩⟩ := mul_eq_error_iff.mp apart
    · have within : (Ending.reading store "risk").Within limit := (h.get _).toNumber positive
      generalize Ending.reading store "risk" = risk at beyond within
      cases risk with
      | int n => exact absurd beyond (not_beyond_of_lt (Nat.lt_of_le_of_lt within small))
      | double x => exact beyond.elim
    · exact absurd beyond (not_beyond_double _)

end

/-! ## 3. Sessions -/

namespace Session

/-- **What is kept of a session**: where it stands, and where it may go next, can be written to a
file, and its variables are within a limit. -/
structure Within (limit : Nat) (s : Session) : Prop where
  scene : s.scene.isWhole = true
  store : s.store.Within limit
  staged : ∀ scene, s.staging.destination = some scene → scene.isWhole = true

variable {game : Game} {choice : Choice} {s : Session}

theorem Within.mono (h : s.Within limit) (le : limit ≤ more) : s.Within more :=
  ⟨h.scene, h.store.mono le, h.staged⟩

theorem Within.save (h : s.Within limit) : s.save.Within limit := ⟨h.scene, h.store⟩

theorem Within.goTo (h : s.Within limit) {scene : Text} (whole : scene.isWhole = true) :
    (s.goTo game scene).session.Within limit := by
  rw [goTo_eq]
  exact ⟨whole, h.store, nofun⟩

theorem Within.renewed (modest : game.Modest initial stride) (begins : initial ≤ limit)
    (s : Session) : (s.renewed game).Within limit :=
  ⟨rfl, modest.ofDefs.mono begins, nofun⟩

theorem Within.start (modest : game.Modest initial stride) (begins : initial ≤ limit)
    (s : Session) : (s.start game).session.Within limit := by
  have renewed := Within.renewed modest begins s
  cases beginning_start game s with
  | atScene first rest scenes eq =>
    rw [eq]
    exact renewed.goTo (modest.scenes first (by simp [scenes]))
  | nowhere scenes eq =>
    rw [eq]
    exact ⟨renewed.scene, renewed.store, renewed.staged⟩

theorem Within.advance (h : s.Within limit) : s.advance.session.Within limit := by
  cases reading_advance s with
  | gated gate eq => rw [eq]; exact h
  | acknowledged away staged eq => rw [eq]; exact ⟨h.scene, h.store, h.staged⟩
  | next away free more eq => rw [eq]; exact ⟨h.scene, h.store, h.staged⟩
  | last away free done eq => rw [eq]; exact h

theorem Within.complete (h : s.Within limit) : (s.complete game).session.Within limit := by
  cases completion_complete game s with
  | nothing free eq => rw [eq]; exact h
  | entered scene staged named eq => rw [eq]; exact h.goTo (h.staged scene staged)

/-- **A choice of a moderate game is made as a whole**, and moves the variables by one stride. -/
theorem Within.select (modest : game.Modest initial stride) (offered : choice ∈ game.story.choices)
    (h : s.Within limit) (positive : 0 < limit) (small : limit + stride < nearLimit) :
    (s.select game choice).fault = none ∧
      (s.select game choice).session.Within (limit + stride) := by
  have reach := modest.small choice offered
  obtain ⟨last, done, within⟩ := Effect.applyClauses_within (modest.short choice offered)
    (by omega) h.store positive
  have applied : Effect.apply choice.effect s.store = (last, none) := done
  have within : last.Within (limit + stride) := within.mono (by omega)
  have found : ∃ scene source, scene.isWhole = true ∧
      (s.recorded game choice).destination game choice = .ok (scene, source) := by
    unfold destination recorded
    rw [applied, modest.config]
    split
    · obtain ⟨⟨scene, source⟩, resolved⟩ := within.resolves (by omega) small s.source
      exact ⟨scene, source, isWhole_of_resolve resolved, resolved⟩
    · exact ⟨_, _, modest.destinations choice offered, rfl⟩
  obtain ⟨scene, source, whole, found⟩ := found
  cases selection_select game choice s with
  | ignored away eq =>
    rw [eq]
    exact ⟨rfl, h.mono (Nat.le_add_right ..)⟩
  | effectFailed gate fault broken eq =>
    rw [applied] at broken
    contradiction
  | endingFailed gate fault applied broken eq =>
    rw [found] at broken
    contradiction
  | staged gate scene' source' _ resolved eq =>
    obtain ⟨rfl, rfl⟩ := Prod.mk.inj (Except.ok.inj (found.symm.trans resolved))
    rw [eq, notify_eq]
    refine ⟨rfl, h.scene, ?_, fun other staged => ?_⟩
    · change Store.Within (limit + stride) (Effect.apply choice.effect s.store).1
      rw [applied]
      exact within
    · have staged : Staging.nonempty scene = some other := staged
      unfold Staging.nonempty at staged
      split at staged
      · contradiction
      · rw [← Option.some.inj staged]
        exact whole

end Session

/-! ## 4. Commands -/

namespace Command

/-- The commands that a moderate game provides for. -/
def Within (game : Game) (limit : Nat) : Command → Prop
  | .select choice => choice ∈ game.story.choices
  | .goTo scene => scene.isWhole = true
  | .load save => save.Within limit
  | .start | .advance | .complete => True

/-- Whether a command makes a choice. -/
def isChoice : Command → Bool
  | .select _ => true
  | _ => false

/-- How far a command moves the variables at most. -/
def reach (stride : Nat) (command : Command) : Nat := if command.isChoice then stride else 0

end Command

/-- **No command fails in a moderate game**, as long as its variables are within near limits. -/
theorem Session.Within.run {game : Game} {s : Session} {command : Command}
    (modest : game.Modest initial stride) (h : s.Within limit) (begins : initial < limit)
    (provided : command.Within game limit) (small : limit + command.reach stride < nearLimit) :
    (command.run game s).fault = none ∧
      (command.run game s).session.Within (limit + command.reach stride) := by
  have positive : 0 < limit := Nat.zero_lt_of_lt begins
  cases command with
  | start =>
    refine ⟨?_, Within.start modest (Nat.le_of_lt begins) s⟩
    cases beginning_start game s with
    | atScene first rest scenes eq => rw [Command.run, eq, goTo_eq]; rfl
    | nowhere scenes eq => rw [Command.run, eq]; rfl
  | advance =>
    refine ⟨?_, h.advance⟩
    cases reading_advance s with
    | gated gate eq => rw [Command.run, eq]; rfl
    | acknowledged away staged eq => rw [Command.run, eq]; rfl
    | next away free more eq => rw [Command.run, eq]; rfl
    | last away free done eq => rw [Command.run, eq]; rfl
  | select choice => exact Within.select modest provided h positive small
  | complete =>
    refine ⟨?_, h.complete⟩
    cases completion_complete game s with
    | nothing free eq => rw [Command.run, eq]; rfl
    | entered scene staged named eq => rw [Command.run, eq, goTo_eq]; rfl
  | goTo scene =>
    refine ⟨?_, h.goTo provided⟩
    rw [Command.run, goTo_eq]
    rfl
  | load save => exact ⟨rfl, provided.scene, provided.store, nofun⟩

end Gamebook

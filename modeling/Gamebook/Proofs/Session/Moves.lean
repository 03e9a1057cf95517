/-
# What a command can come to

A command leaves a session alone, breaks off in the middle, or changes it and then calls the
listeners.  For each command this module lists everything that it can come to, guards included,
so that a law about sessions is proved by going through the list and never by opening the
command.

* `Reading`, `Selection` and `Completion` list the outcomes of `advance`, `select` and
  `complete`; `reading_advance`, `selection_select` and `completion_complete` say that the lists
  are complete.
* `goTo` and `load` have one outcome each (`goTo_eq`, `load_eq`), and `start` has one for a story
  with scenes and one for a story without (`Beginning`).
* `Upshot` lists what any command at all can come to, as those who listen see it; `Placeless.run`
  says what becomes of the fields that have nothing to do with where the reader stands.
-/
import Gamebook.Session.Command

namespace Gamebook.Session

variable {game : Game}

/-! ## 1. Calling the listeners -/

/-- A session after its listeners were called, who may have removed one another. -/
def told (s : Session) : Session := { s with listeners := s.listeners.notify.2 }

theorem notify_eq (s : Session) (reports : List Report) :
    s.notify reports = { session := s.told, reports, called := s.listeners.notify.1 } := rfl

/-- What a reader sees of a session does not hang on its listeners. -/
@[simp] theorem state_told (s : Session) : s.told.state game = s.state game := rfl

/-! ## 2. Entering a scene -/

/-- A session at the start of a scene, with nothing staged.  If the scene is an ending, then the
ending of the session counts as reported from here on. -/
def arrival (game : Game) (scene : Text) (s : Session) : Session :=
  { s with
    scene, lines := game.story.linesOf scene, index := 0, staging := .clear
    endingReported := s.endingReported || game.config.isEndingScene scene }

/-- The report that is due on entering a scene: the first ending of a session is reported. -/
def arrivalReports (game : Game) (scene : Text) (s : Session) : List Report :=
  if game.config.isEndingScene scene && !s.endingReported then [.ended scene] else []

theorem goTo_eq (game : Game) (scene : Text) (s : Session) :
    s.goTo game scene = (s.arrival game scene).notify (s.arrivalReports game scene) := by
  cases ending : game.config.isEndingScene scene <;> cases reported : s.endingReported <;>
    simp [goTo, inEnding, arrival, arrivalReports, ending, reported]

/-- A session that is set back to its beginning and stands nowhere yet. -/
def renewed (game : Game) (s : Session) : Session :=
  { s with
    scene := [], lines := [], index := 0, staging := .clear
    store := Store.ofDefs game.story.variableDefs, history := [], endingReported := false }

/-- **All that starting can come to**: the first scene, or no scene at all. -/
inductive Beginning (game : Game) (s : Session) (o : Outcome) : Prop
  | atScene (first : Scene) (rest : List Scene) (scenes : game.story.scenes = first :: rest)
      (eq : o = { ((s.renewed game).goTo game first.id) with
        reports := .started :: (s.renewed game).arrivalReports game first.id })
  | nowhere (scenes : game.story.scenes = []) (eq : o = (s.renewed game).notify [.started])

theorem beginning_start (game : Game) (s : Session) : Beginning game s (s.start game) := by
  cases h : game.story.scenes with
  | nil =>
    refine .nowhere h ?_
    simp only [start, h]
    rfl
  | cons first rest =>
    refine .atScene first rest h ?_
    simp only [start, h, goTo_eq]
    rfl

/-- A session that was taken up from a save. -/
def resumed (game : Game) (save : Save) (s : Session) : Session :=
  { s with
    store := save.store, staging := .clear, scene := save.scene
    lines := game.story.linesOf save.scene
    index := clampIndex save.index (game.story.linesOf save.scene)
    endingReported := game.config.isEndingScene save.scene }

theorem load_eq (game : Game) (save : Save) (s : Session) :
    s.load game save = (s.resumed game save).notify [] := rfl

/-! ## 3. Reading on -/

theorem atGate_iff (s : Session) :
    s.atGate = true ↔
      s.staging.isStaged = false ∧ ∃ line, s.line? = some line ∧ line.isGate = true := by
  simp [atGate, Option.any_eq_true]

/-- A session whose staged response was put aside. -/
def acknowledged (s : Session) : Session := { s with staging := s.staging.acknowledge }

/-- A session at the next line. -/
def turned (s : Session) : Session := { s with index := s.index + 1 }

theorem advance_eq (s : Session) :
    s.advance =
      if s.atGate then s.idle
      else if s.staging.isStaged then s.acknowledged.notify []
      else if s.index + 1 < s.lines.length then s.turned.notify []
      else s.idle := rfl

/-- At a gate nothing is read on. -/
theorem advance_gate {s : Session} (gate : s.atGate = true) : s.advance = s.idle := by
  rw [advance_eq, if_pos gate]

/-- **All that reading on can come to**: a gate keeps the reader, a staged response is put aside,
the next line is read, or there is none. -/
inductive Reading (s : Session) (o : Outcome) : Prop
  | gated (gate : s.atGate = true) (eq : o = s.idle)
  | acknowledged (away : s.atGate = false) (staged : s.staging.isStaged = true)
      (eq : o = s.acknowledged.notify [])
  | next (away : s.atGate = false) (free : s.staging.isStaged = false)
      (more : s.index + 1 < s.lines.length) (eq : o = s.turned.notify [])
  | last (away : s.atGate = false) (free : s.staging.isStaged = false)
      (done : s.lines.length ≤ s.index + 1) (eq : o = s.idle)

theorem reading_advance (s : Session) : Reading s s.advance := by
  rw [advance_eq]
  split
  · rename_i gate
    exact .gated gate rfl
  · rename_i away
    split
    · rename_i staged
      exact .acknowledged (by simpa using away) staged rfl
    · rename_i free
      split
      · rename_i more
        exact .next (by simpa using away) (by simpa using free) more rfl
      · rename_i done
        exact .last (by simpa using away) (by simpa using free) (by omega) rfl

/-! ## 4. Making a choice -/

/-- A session in which a choice is recorded and its effect carried out, as far as it goes; nothing
is staged yet. -/
def recorded (game : Game) (choice : Choice) (s : Session) : Session :=
  { s with
    history := s.history ++ [⟨((s.scene? game).map Scene.name).getD "", choice.text⟩]
    store := (Effect.apply choice.effect s.store).1 }

/-- A session in which a choice is carried out as a whole: the scene that it leads to is staged
behind its response, and `source` is what the search for the scene left of the draws. -/
def chosen (game : Game) (choice : Choice) (scene : Text) (source : Source) (s : Session) :
    Session :=
  { s.recorded game choice with staging := .stage scene (some choice.response), source }

theorem select_away {s : Session} (away : s.atGate = false) (choice : Choice) :
    s.select game choice = s.idle := by
  simp [select, away]

/-- What making a choice at a gate comes to, by how far it gets. -/
theorem select_gate {s : Session} (gate : s.atGate = true) (choice : Choice) :
    s.select game choice =
      match (Effect.apply choice.effect s.store).2 with
      | some fault => (s.recorded game choice).failed fault
      | none =>
        match (s.recorded game choice).destination game choice with
        | .error fault => (s.recorded game choice).failed fault
        | .ok (scene, source) => (s.chosen game choice scene source).notify [] := by
  unfold select
  rw [gate]
  rfl

/-- **All that making a choice can come to.**  Away from a gate it is ignored; at a gate the
effect or the search for the ending may fail, and otherwise the choice is staged. -/
inductive Selection (game : Game) (choice : Choice) (s : Session) (o : Outcome) : Prop
  | ignored (away : s.atGate = false) (eq : o = s.idle)
  | effectFailed (gate : s.atGate = true) (fault : Fault)
      (broken : (Effect.apply choice.effect s.store).2 = some fault)
      (eq : o = (s.recorded game choice).failed fault)
  | endingFailed (gate : s.atGate = true) (fault : Fault)
      (applied : (Effect.apply choice.effect s.store).2 = none)
      (broken : (s.recorded game choice).destination game choice = .error fault)
      (eq : o = (s.recorded game choice).failed fault)
  | staged (gate : s.atGate = true) (scene : Text) (source : Source)
      (applied : (Effect.apply choice.effect s.store).2 = none)
      (resolved : (s.recorded game choice).destination game choice = .ok (scene, source))
      (eq : o = (s.chosen game choice scene source).notify [])

theorem selection_select (game : Game) (choice : Choice) (s : Session) :
    Selection game choice s (s.select game choice) := by
  cases gate : s.atGate with
  | false => exact .ignored gate (select_away gate choice)
  | true =>
    rw [select_gate gate]
    split
    · rename_i fault broken
      exact .effectFailed gate fault broken rfl
    · rename_i applied
      split
      · rename_i fault broken
        exact .endingFailed gate fault applied broken rfl
      · rename_i scene source resolved
        exact .staged gate scene source applied resolved rfl

/-! ## 5. Finishing a transition -/

theorem complete_eq (game : Game) (s : Session) :
    s.complete game =
      if Staging.present s.staging.destination then
        s.goTo game (s.staging.destination.getD [])
      else s.idle := by
  have blank : Text.ofString "" = [] := rfl
  cases present : Staging.present s.staging.destination <;>
    simp [complete, present, Staging.commit, blank, goTo_eq, arrival, arrivalReports]

/-- **All that finishing a transition can come to**: nothing without a destination, and otherwise
its scene is entered. -/
inductive Completion (game : Game) (s : Session) (o : Outcome) : Prop
  | nothing (free : Staging.present s.staging.destination = false) (eq : o = s.idle)
  | entered (scene : Text) (staged : s.staging.destination = some scene) (named : scene ≠ [])
      (eq : o = s.goTo game scene)

theorem completion_complete (game : Game) (s : Session) :
    Completion game s (s.complete game) := by
  rw [complete_eq]
  split
  · rename_i present
    cases h : s.staging.destination with
    | none => simp [Staging.present, h] at present
    | some scene =>
      refine .entered scene h ?_ rfl
      simpa [Staging.present, h] using present
  · rename_i free
    exact .nothing (by simpa using free) rfl

/-! ## 6. Any command -/

/-- **All that any command can come to**: nothing at all, a fault, or a change of which those who
listen are told.  Who listens is not for a command to say. -/
inductive Upshot (s : Session) (o : Outcome) : Prop
  | nothing (eq : o = s.idle)
  | failed (t : Session) (fault : Fault) (listeners : t.listeners = s.listeners)
      (eq : o = t.failed fault)
  | changed (t : Session) (reports : List Report) (listeners : t.listeners = s.listeners)
      (eq : o = t.notify reports)

theorem upshot_run (game : Game) (command : Command) (s : Session) :
    Upshot s (command.run game s) := by
  cases command with
  | start =>
    cases beginning_start game s with
    | atScene first rest scenes eq =>
      rw [goTo_eq] at eq
      exact .changed ((s.renewed game).arrival game first.id) _ rfl eq
    | nowhere scenes eq => exact .changed (s.renewed game) _ rfl eq
  | advance =>
    cases reading_advance s with
    | gated gate eq => exact .nothing eq
    | acknowledged away staged eq => exact .changed s.acknowledged _ rfl eq
    | next away free more eq => exact .changed s.turned _ rfl eq
    | last away free done eq => exact .nothing eq
  | select choice =>
    cases selection_select game choice s with
    | ignored away eq => exact .nothing eq
    | effectFailed gate fault broken eq => exact .failed (s.recorded game choice) fault rfl eq
    | endingFailed gate fault applied broken eq =>
      exact .failed (s.recorded game choice) fault rfl eq
    | staged gate scene source applied resolved eq =>
      exact .changed (s.chosen game choice scene source) [] rfl eq
  | complete =>
    cases completion_complete game s with
    | nothing free eq => exact .nothing eq
    | entered scene staged named eq =>
      rw [goTo_eq] at eq
      exact .changed (s.arrival game scene) _ rfl eq
  | goTo scene => exact .changed (s.arrival game scene) _ rfl (goTo_eq game scene s)
  | load save => exact .changed (s.resumed game save) [] rfl (load_eq game save s)

/-! ## 7. Apart from the place -/

/-- **What is seen of a session has nothing to do with the place**: it is the same wherever the
reader goes and whatever is staged, and those who listen do not change it. -/
structure Placeless {α : Type} (seen : Session → α) : Prop where
  told : ∀ s : Session, seen s.told = seen s
  arrival : ∀ (game : Game) (scene : Text) (s : Session), seen (s.arrival game scene) = seen s
  acknowledged : ∀ s : Session, seen s.acknowledged = seen s
  turned : ∀ s : Session, seen s.turned = seen s
  chosen : ∀ (game : Game) (choice : Choice) (scene : Text) (source : Source) (s : Session),
    seen (s.chosen game choice scene source) = seen (s.recorded game choice)

/-- Of what has nothing to do with the place a command changes no more than a start, the record of
a choice and a load do. -/
theorem Placeless.run {α : Type} {seen : Session → α} (h : Placeless seen) (game : Game)
    (command : Command) (s : Session) :
    seen (command.run game s).session =
      match command with
      | .start => seen (s.renewed game)
      | .select choice => if s.atGate then seen (s.recorded game choice) else seen s
      | .load save => seen (s.resumed game save)
      | .advance | .complete | .goTo _ => seen s := by
  have goTo (scene : Text) (s : Session) : seen (s.goTo game scene).session = seen s := by
    rw [goTo_eq]
    exact (h.told _).trans (h.arrival game scene s)
  cases command with
  | start =>
    change seen (s.start game).session = seen (s.renewed game)
    cases beginning_start game s with
    | atScene first rest scenes eq => rw [eq]; exact goTo first.id (s.renewed game)
    | nowhere scenes eq => rw [eq]; exact h.told (s.renewed game)
  | advance =>
    change seen s.advance.session = seen s
    cases reading_advance s with
    | gated gate eq => rw [eq]; rfl
    | acknowledged away staged eq => rw [eq]; exact (h.told _).trans (h.acknowledged s)
    | next away free more eq => rw [eq]; exact (h.told _).trans (h.turned s)
    | last away free done eq => rw [eq]; rfl
  | select choice =>
    change seen (s.select game choice).session = if s.atGate then _ else _
    cases selection_select game choice s with
    | ignored away eq => rw [eq, away]; rfl
    | effectFailed gate fault broken eq => rw [eq, gate]; rfl
    | endingFailed gate fault applied broken eq => rw [eq, gate]; rfl
    | staged gate scene source applied resolved eq =>
      rw [eq, gate]
      exact (h.told _).trans (h.chosen game choice scene source s)
  | complete =>
    change seen (s.complete game).session = seen s
    cases completion_complete game s with
    | nothing free eq => rw [eq]; rfl
    | entered scene staged named eq => rw [eq]; exact goTo scene s
  | goTo scene => exact goTo scene s
  | load save => exact h.told (s.resumed game save)

end Gamebook.Session

/-
# Commands

What can be done to a session.  A command gives an `Outcome`: the session it leaves, the reports
it made, the listeners it called, and the fault that ended it, if any.  Whatever was done before
a fault stays done; listeners are called only at the very end, after the last change.

* `start`, `goTo` and `complete` enter a scene; the first ending that is entered in a session is
  reported.
* `advance` reads on, and never past a gate.
* `select` makes a choice at a gate.
* `load` takes a saved session up; the history stays.
-/
import Gamebook.Session.Basic
import Gamebook.Variable.Effect

namespace Gamebook

/-- What is reported about sessions. -/
inductive Report where
  | started
  | ended (scene : Text)
deriving DecidableEq, Repr

/-- What a command leads to. -/
structure Outcome where
  session : Session
  reports : List Report := []
  called : List Listener := []
  fault : Option Fault := none
deriving DecidableEq, Inhabited

namespace Session

/-- The session stays as it is. -/
def idle (s : Session) : Outcome := { session := s }

/-- The session is left as it is by a fault. -/
def failed (s : Session) (fault : Fault) : Outcome := { session := s, fault := some fault }

/-- The session changed: the listeners are called. -/
def notify (s : Session) (reports : List Report) : Outcome :=
  let (called, left) := s.listeners.notify
  { session := { s with listeners := left }, reports, called }

/-- Jumps to the start of a scene; whatever is staged is dropped. -/
def goTo (game : Game) (scene : Text) (s : Session) : Outcome :=
  let entered := { s with
    scene, lines := game.story.linesOf scene, index := 0, staging := .clear }
  if entered.inEnding game && !s.endingReported then
    notify { entered with endingReported := true } [.ended scene]
  else notify entered []

/-- Starts a new session at the first scene. -/
def start (game : Game) (s : Session) : Outcome :=
  let reset := { s with
    store := Store.ofDefs game.story.variableDefs, history := [], endingReported := false,
    staging := .clear }
  let outcome := match game.story.scenes with
    | first :: _ => reset.goTo game first.id
    | [] => notify { reset with scene := "", lines := [], index := 0 } []
  { outcome with reports := .started :: outcome.reports }

/-- Reads on: to the next line, or past a staged response.  At a gate nothing happens. -/
def advance (s : Session) : Outcome :=
  if s.atGate then s.idle
  else if s.staging.isStaged then notify { s with staging := s.staging.acknowledge } []
  else if s.index + 1 < s.lines.length then notify { s with index := s.index + 1 } []
  else s.idle

/-- The scene that a choice leads to; the ending that the variables call for may take a draw. -/
def destination (game : Game) (choice : Choice) (s : Session) : Except Fault (Text × Source) :=
  if choice.leadsToEnding then Ending.resolve game.config s.store s.source
  else .ok (choice.destination, s.source)

/-- Makes a choice at a gate: it is recorded, its effect is carried out, and its response and
its destination are staged.  Anywhere else nothing happens. -/
def select (game : Game) (choice : Choice) (s : Session) : Outcome :=
  if !s.atGate then s.idle
  else
    let record : ChoiceRecord := ⟨((s.scene? game).map Scene.name).getD "", choice.text⟩
    let (store, fault) := Effect.apply choice.effect s.store
    let changed := { s with history := s.history ++ [record], store }
    match fault with
    | some fault => changed.failed fault
    | none =>
      match changed.destination game choice with
      | .error fault => changed.failed fault
      | .ok (scene, source) =>
        notify { changed with staging := .stage scene (some choice.response), source } []

/-- Enters the staged destination, if there is one. -/
def complete (game : Game) (s : Session) : Outcome :=
  if !Staging.present s.staging.destination then s.idle
  else
    let (scene, staging) := s.staging.commit
    { s with staging }.goTo game (scene.getD "")

/-- An index that is forced into a list of lines. -/
def clampIndex (index : Int) (lines : List Line) : Nat :=
  min index.toNat (lines.length - 1)

/-- Takes a saved session up.  An ending that is entered this way counts as reported. -/
def load (game : Game) (save : Save) (s : Session) : Outcome :=
  let lines := game.story.linesOf save.scene
  let restored := { s with
    store := save.store, staging := .clear, scene := save.scene, lines,
    index := clampIndex save.index lines }
  notify { restored with endingReported := restored.inEnding game } []

end Session

/-- The commands as data. -/
inductive Command where
  | start
  | advance
  | select (choice : Choice)
  | complete
  | goTo (scene : Text)
  | load (save : Save)
deriving DecidableEq

/-- Carries out a command. -/
def Command.run (game : Game) : Command → Session → Outcome
  | .start => Session.start game
  | .advance => Session.advance
  | .select choice => Session.select game choice
  | .complete => Session.complete game
  | .goTo scene => Session.goTo game scene
  | .load save => Session.load game save

end Gamebook

/-
# Commands, statement by statement

`Command.run` says what a command leads to.  Here a command is carried out one statement after
another, in full view: a statement writes a field of the session, makes a report, or calls a
listener, and a listener finds the session as the statements before left it (`Sight`).  A listener
that removes registrations does so while it is called; who else is called in the same round was
settled when the round began.

Statements may be broken off by a fault, and taking up a document is if it is no save (`Breach`);
what was written before stays written.
-/
import Gamebook.Session.Command

namespace Gamebook

/-- What a listener finds when it is called: the session as it stands at that moment. -/
structure Sight where
  /-- The handle of its registration. -/
  handle : Nat
  listener : Listener
  session : Session
deriving DecidableEq

/-- A session while something is done to it, with the reports that were made and with what the
listeners found that were called. -/
structure Live where
  session : Session
  reports : List Report := []
  sights : List Sight := []
deriving DecidableEq

/-- Why statements are broken off. -/
inductive Breach where
  | fault (fault : Fault)
  /-- A document was to be taken up and is no save. -/
  | flaw (flaw : Save.Flaw)

/-- Statements on a live session. -/
abbrev Act (α : Type) : Type := ExceptT Breach (StateM Live) α

namespace Act

/-! ## 1. Statements -/

/-- Carries out statements: how they end, and the session as they leave it. -/
def carry {α : Type} (act : Act α) (live : Live) : Except Breach α × Live :=
  StateT.run (ExceptT.run act) live

/-- The session as it stands. -/
def current : Act Session := do return (← get).session

/-- Writes to the session. -/
def write (change : Session → Session) : Act Unit :=
  modify fun live => { live with session := change live.session }

/-- Makes a report. -/
def tell (report : Report) : Act Unit :=
  modify fun live => { live with reports := live.reports ++ [report] }

/-- Calls a listener: it finds the session as it stands, and may remove registrations. -/
def call (entry : Nat × Listener) : Act Unit := do
  modify fun live => { live with sights := live.sights ++ [⟨entry.1, entry.2, live.session⟩] }
  write fun s => { s with listeners := s.listeners.removeAll entry.2.removes }

/-- Calls the listeners that are registered by now, in order of registration. -/
def notify : Act Unit := do
  let registered := (← current).listeners.entries
  registered.forM call

/-! ## 2. Commands -/

/-- Jumps to the start of a scene. -/
def goTo (game : Game) (scene : Text) : Act Unit := do
  write fun s => { s with scene }
  write fun s => { s with lines := game.story.linesOf scene }
  write fun s => { s with index := 0 }
  write fun s => { s with staging := .clear }
  let s ← current
  if s.inEnding game && !s.endingReported then
    write fun s => { s with endingReported := true }
    tell (.ended scene)
  notify

/-- Starts a new session. -/
def start (game : Game) : Act Unit := do
  write fun s => { s with store := Store.ofDefs game.story.variableDefs }
  write fun s => { s with history := [] }
  write fun s => { s with endingReported := false }
  write fun s => { s with staging := .clear }
  tell .started
  match game.story.scenes with
  | first :: _ => goTo game first.id
  | [] =>
    write fun s => { s with scene := [] }
    write fun s => { s with lines := [] }
    write fun s => { s with index := 0 }
    notify

/-- Reads on. -/
def advance : Act Unit := do
  let s ← current
  if s.atGate then return
  else if s.staging.isStaged then
    write fun s => { s with staging := s.staging.acknowledge }
    notify
  else if s.index + 1 < s.lines.length then
    write fun s => { s with index := s.index + 1 }
    notify

/-- Carries out one clause of an effect. -/
def applyClause (clause : Text) : Act Unit := do
  match Effect.applyClause (← current).store clause with
  | .ok store => write fun s => { s with store }
  | .error fault => throw (.fault fault)

/-- The scene that a choice leads to; the ending that the variables call for may take a draw. -/
def destination (game : Game) (choice : Choice) : Act Text := do
  let s ← current
  if choice.leadsToEnding then
    match Ending.resolve game.config s.store s.source with
    | .ok (scene, source) =>
      write fun s => { s with source }
      return scene
    | .error fault => throw (.fault fault)
  else return choice.destination

/-- Makes a choice. -/
def select (game : Game) (choice : Choice) : Act Unit := do
  let s ← current
  if s.atGate then
    let record : ChoiceRecord := ⟨((s.scene? game).map Scene.name).getD "", choice.text⟩
    write fun s => { s with history := s.history ++ [record] }
    (Effect.clauses choice.effect).forM applyClause
    let scene ← destination game choice
    write fun s => { s with staging := .stage scene (some choice.response) }
    notify

/-- Enters the staged destination. -/
def complete (game : Game) : Act Unit := do
  let s ← current
  if Staging.present s.staging.destination then
    let (scene, staging) := s.staging.commit
    write fun s => { s with staging }
    goTo game (scene.getD [])

/-- Takes a save up. -/
def load (game : Game) (save : Save) : Act Unit := do
  write fun s => { s with store := save.store }
  write fun s => { s with staging := .clear }
  write fun s => { s with scene := save.scene }
  write fun s => { s with lines := game.story.linesOf save.scene }
  write fun s => { s with index := Session.clampIndex save.index s.lines }
  write fun s => { s with endingReported := s.inEnding game }
  notify

/-- Takes a document up as a save. -/
def restore (game : Game) (document : Datum) : Act Unit := do
  match Save.ofDatum document with
  | .ok save => load game save
  | .error flaw => throw (.flaw flaw)

end Act

/-- A command as statements. -/
def Command.act (game : Game) : Command → Act Unit
  | .start => Act.start game
  | .advance => Act.advance
  | .select choice => Act.select game choice
  | .complete => Act.complete game
  | .goTo scene => Act.goTo game scene
  | .load save => Act.load game save

end Gamebook

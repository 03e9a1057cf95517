/-
# Reporters

Someone outside may want to be told of the sessions that are started and of the endings that they
reach.  A reporter does with a report whatever it likes, and it may fail.  What it did before it
failed stays done; if it failed by an exception, the session goes on as if it had not failed
(`Reporter.tell`).  An exit, such as an interrupt from the keyboard, is no exception: it passes
through and ends the command.

The commands are those of `Command.run`, carried out in the presence of a reporter, who is called
in the middle of them: at a start before the first scene is entered, and on entering an ending
before the listeners are called.
-/
import Gamebook.Session.Command

namespace Gamebook

/-- Someone who is told of sessions: `σ` is what they keep, `ε` are the exceptions that they may
raise, and `ζ` the exits that they may ask for. -/
structure Reporter (ε ζ σ : Type) where
  /-- Whether they count as anybody: someone who also is a collection does not while it is empty. -/
  counts : Bool := true
  hear : Report → ExceptT ε (ExceptT ζ (StateM σ)) Unit

namespace Reporter

variable {ε ζ σ : Type}

/-- Nobody, who hears nothing. -/
def silent : Reporter ε ζ σ where
  hear _ := pure ()

/-- The reporter of a session, settled when the session is made: nobody, unless one is given who
counts. -/
def engaged (given : Option (Reporter ε ζ σ)) : Reporter ε ζ σ :=
  (given.filter counts).getD silent

/-- Tells a reporter; an exception is skipped, an exit is not. -/
def tell (r : Reporter ε ζ σ) (report : Report) : ExceptT ζ (StateM σ) Unit := do
  let _ ← (r.hear report).run

end Reporter

namespace Session

variable {ε ζ σ : Type}

/-- Jumps to the start of a scene, heard by a reporter. -/
def goToHeard (r : Reporter ε ζ σ) (game : Game) (scene : Text) (s : Session) :
    ExceptT ζ (StateM σ) Outcome := do
  let entered := { s with
    scene, lines := game.story.linesOf scene, index := 0, staging := .clear }
  if entered.inEnding game && !s.endingReported then
    r.tell (.ended scene)
    return notify { entered with endingReported := true } [.ended scene]
  else return notify entered []

/-- Starts a new session at the first scene, heard by a reporter. -/
def startHeard (r : Reporter ε ζ σ) (game : Game) (s : Session) :
    ExceptT ζ (StateM σ) Outcome := do
  let reset := { s with
    store := Store.ofDefs game.story.variableDefs, history := [], endingReported := false,
    staging := .clear }
  r.tell .started
  let outcome ← match game.story.scenes with
    | first :: _ => reset.goToHeard r game first.id
    | [] => pure (notify { reset with scene := "", lines := [], index := 0 } [])
  return { outcome with reports := .started :: outcome.reports }

/-- Enters the staged destination, if there is one, heard by a reporter. -/
def completeHeard (r : Reporter ε ζ σ) (game : Game) (s : Session) :
    ExceptT ζ (StateM σ) Outcome :=
  if !Staging.present s.staging.destination then return s.idle
  else
    let (scene, staging) := s.staging.commit
    { s with staging }.goToHeard r game (scene.getD "")

end Session

/-- Carries out a command in the presence of a reporter. -/
def Command.runHeard {ε ζ σ : Type} (r : Reporter ε ζ σ) (game : Game) :
    Command → Session → ExceptT ζ (StateM σ) Outcome
  | .start, s => s.startHeard r game
  | .advance, s => return s.advance
  | .select choice, s => return s.select game choice
  | .complete, s => s.completeHeard r game
  | .goTo scene, s => s.goToHeard r game scene
  | .load save, s => return s.load game save

end Gamebook

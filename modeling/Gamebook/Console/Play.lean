/-
# Playing on a console

Between two typed lines a console shows what is new and then stops at a `Pause`: it asks for a
command, or whether to play again, or it is done.

* `settle` brings the screen up to date.  It may run a transition, after which there is a new
  scene to show; nothing is staged in a scene that was just entered, so that a second `refresh`
  is enough.
* `react` carries out one command; `answer` reacts to a typed line, whatever was asked, and `close`
  to the end of the input.
* `play` folds `answer` over the lines that are typed, and hands back those it did not need.
-/
import Gamebook.Console.Screen
import Gamebook.Console.Storage
import Gamebook.Text.Blank

namespace Gamebook

/-- Where a console stops. -/
inductive Pause where
  /-- It asks for a command, after it offered these choices. -/
  | command (choices : List Choice)
  /-- It asks whether to play again. -/
  | again
  /-- It has said good-bye. -/
  | done
deriving DecidableEq

namespace Console

/-! ## 1. From one pause to the next -/

/-- Shows the text on the way to the staged destination and goes there. -/
def cross (c : Console) : Except Crash Console :=
  match c.session.staging.destination with
  | none => .ok c
  | some target =>
    let text := (c.manifest.transitionTexts.find? target).getD []
    (if text.isEmpty then c else c.sayAll ["", text]).perform .complete

/-- Shows what is new, if anything is: the header of a new scene, and then the response, the
transition or the line that the session has come to. -/
def refresh (c : Console) : Except Crash Console :=
  if !c.outdated then .ok c
  else do
    let c ← { c with outdated := false }.showHeader
    match c.session.staging.response with
    | some response => return c.say response
    | none => if c.session.awaitsTransition then c.cross else return c.showLine

/-- Brings the screen up to date. -/
def settle (c : Console) : Except Crash Console := do
  (← c.refresh).refresh

/-- Says good-bye. -/
def leave (c : Console) : Console × Pause := (c.sayAll ["", "Goodbye."], .done)

/-- Shows how an ending was reached. -/
def showEnding (c : Console) : Except Crash Console :=
  let name := ((c.session.scene? c.game).map Scene.name).getD c.session.scene
  (c.sayAll ["", "=== " ++ name ++ " ==="]).showHistory.showVariables

/-- Stops where the session has come to: at its end, at a gate, or with something to read. -/
def halt (c : Console) : Except Crash (Console × Pause) := do
  if c.session.atEnd then
    if c.session.inEnding c.game then return (← c.showEnding, .again)
    else return (c.sayAll ["", "The story stops here."]).leave
  else if c.session.atGate then
    let choices := c.session.openChoices c.game
    return (c.showChoices choices, .command choices)
  else return (c, .command [])

/-- Goes on to the next pause. -/
def resume (c : Console) : Except Crash (Console × Pause) := do
  (← c.settle).halt

/-- Starts a session, of which nothing was shown yet. -/
def startSession (c : Console) : Except Crash Console := do
  let c ← { c.showTitle with headed := none }.perform .start
  return { c with outdated := true }

/-- Starts a session and goes on to the first pause. -/
def begin (c : Console) : Except Crash (Console × Pause) := do
  (← c.startSession).resume

/-! ## 2. Typed lines -/

/-- A typed line as it is understood: without surrounding blanks, and in small letters. -/
def understood (line : String) : List Char := (Text.strip line).toChars.map Char.toLower

/-- The choice that a number picks, counted from one. -/
def picked? (choices : List Choice) (number : Int) : Option Choice :=
  if 1 ≤ number then choices[(number - 1).toNat]? else none

/-- Reads on. -/
def readOn (c : Console) : Except Crash Console := do
  let next ← c.perform .advance
  if c.session.showsResponse then next.cross else return next

/-- Makes the choice that a number picks. -/
def choose (c : Console) (choices : List Choice) (digits : List Char) : Except Crash Console :=
  match Literal.integer? digits with
  | .error fault => .error ⟨c, fault⟩
  | .ok number =>
    match picked? choices number with
    | some choice => (c.sayAll ["", "> " ++ choice.text]).perform (.select choice)
    | none => .ok (c.say "Invalid choice.")

/-- Reacts to a word. -/
def obey (c : Console) (word : String) : Except Crash Console :=
  if word = "help" ∨ word = "h" then .ok c.showHelp
  else if word = "history" then .ok c.showHistory
  else if word = "vars" then c.showVariables
  else if word = "save" then c.store
  else if word = "load" then c.restore
  else .ok (c.say "Unknown command. (help for a list)")

/-- The prompt for a command. -/
def commandPrompt : String := "> "

/-- The question after an ending. -/
def againPrompt : String := "Play again? (y/n) > "

/-- Carries out a command; there is no console to go on with if the player quits. -/
def react (c : Console) (choices : List Choice) (line : String) :
    Except Crash (Option Console) := do
  let cs := understood line
  if cs.isEmpty then
    if choices.isEmpty then return some (← c.readOn)
    else return some (c.say "Pick a number.")
  else if cs.all Text.isDigitLike && !choices.isEmpty then return some (← c.choose choices cs)
  else
    let word := String.ofList cs
    if word = "quit" ∨ word = "q" then return none
    else return some (← c.obey word)

/-- Reacts to a command. -/
def follow (c : Console) (choices : List Choice) (line : String) :
    Except Crash (Console × Pause) := do
  match ← c.react choices line with
  | some next => next.resume
  | none => return c.leave

/-- Whether a player wants to play again. -/
def wantsMore (line : String) : Bool :=
  let word := String.ofList (understood line)
  word = "y" || word = "yes"

/-- **Reacts to a typed line.** -/
def answer (c : Console) (pause : Pause) (line : String) : Except Crash (Console × Pause) :=
  match pause with
  | .command choices => (c.note commandPrompt (some line)).follow choices line
  | .again =>
    let c := c.note againPrompt (some line)
    if wantsMore line then c.begin else .ok (c.say "Goodbye.", .done)
  | .done => .ok (c, .done)

/-- Reacts to the end of the input. -/
def close (c : Console) : Pause → Console
  | .command _ => (c.note commandPrompt none).leave.1
  | .again => (c.note againPrompt none).say "Goodbye."
  | .done => c

/-! ## 3. Runs -/

/-- Plays from a pause with the lines that are typed; gives the lines that are left over. -/
def play (c : Console) : Pause → List String → Except Crash (Console × List String)
  | .done, lines => .ok (c, lines)
  | pause, [] => .ok (c.close pause, [])
  | pause, line :: rest => do
    let (c, next) ← c.answer pause line
    c.play next rest

/-- **Runs sessions until the player stops.** -/
def run (c : Console) (lines : List String) : Except Crash (Console × List String) := do
  let (c, pause) ← c.begin
  c.play pause lines

end Console
end Gamebook

/-
# What a console shows

The title, the header of a scene, lines, choices, the history and the variables.  Functions
that only show something leave everything but the transcript as it is; the header also
remembers its scene, because it is shown once when a scene begins.
-/
import Gamebook.Console.Basic

namespace Gamebook.Console

/-! ## 1. The title -/

/-- How often each ending was reached, in the order of their names. -/
def tally (reports : List Report) : List (Text × Nat) :=
  let ended := reports.filterMap fun
    | .ended scene => some scene
    | .started => none
  (ended.eraseDups.mergeSort Text.le).map fun scene => (scene, ended.count scene)

/-- The lines about the sessions that were played. -/
def record (reports : List Report) : List Text :=
  let sessions := reports.count .started
  if sessions = 0 then []
  else
    let endings := (tally reports).map fun (scene, times) => scene ++ " x" ++ toString times
    ("Sessions played: " ++ toString sessions) ::
      (if endings.isEmpty then [] else ["Endings: " ++ Text.join ", " endings])

/-- Shows the title of the story, its description and what was played. -/
def showTitle (c : Console) : Console :=
  let title := if c.manifest.title.isEmpty then c.manifest.id else c.manifest.title
  let heading : List Text :=
    if c.manifest.description.isEmpty then ["", title] else ["", title, c.manifest.description]
  let played := (c.reports.map record).getD []
  c.sayAll (heading ++ played ++ [[]])

/-! ## 2. Scenes and lines -/

/-- How far along the reader is, in whole percent. -/
def percent (c : Console) : Except Fault Int := do
  (← (c.session.progress c.game).mul (.int 100)).truncate

/-- The header of a scene: its label, if it has one, its name, and how far along the reader is. -/
def header (c : Console) (scene : Scene) (percent : Int) : Text :=
  let label := (c.manifest.sceneLabels.find? scene.id).getD []
  let name : Text := "【" ++ scene.name ++ "】"
  (if label.isEmpty then name else label ++ " " ++ name) ++ "  (" ++ toString percent ++ "%)"

/-- Shows the header of the current scene, unless it is the one that was shown last.  A percentage
with too many digits is met after the blank line. -/
def showHeader (c : Console) : Except Crash Console :=
  match c.session.scene? c.game with
  | none => .ok c
  | some scene =>
    if c.headed = some scene.id then .ok c
    else
      let c := { c with headed := some scene.id }
      match c.percent with
      | .error fault => .error ⟨c, fault⟩
      | .ok percent =>
        if (Number.int percent).isOverlong then .error ⟨c.say "", .tooManyDigits⟩
        else .ok (c.sayAll ["", c.header scene percent])

/-- A spoken line with the name of its speaker, if the speaker has one. -/
def spoken (c : Console) (line : Line) : Text :=
  match c.game.story.character? line.speaker with
  | some speaker => if speaker.name.isEmpty then line.text else speaker.name ++ ": " ++ line.text
  | none => line.text

/-- Shows the current line, unless it is a gate. -/
def showLine (c : Console) : Console :=
  match c.session.line? with
  | some line => if line.isGate then c else c.say (c.spoken line)
  | none => c

/-! ## 3. Choices, history and variables -/

/-- Choices as numbered lines. -/
def numbered (choices : List Choice) : List Text :=
  choices.mapIdx fun i choice => "  " ++ toString (i + 1) ++ ". " ++ choice.text

/-- Shows choices. -/
def showChoices (c : Console) (choices : List Choice) : Console :=
  c.sayAll ("" :: numbered choices)

/-- Shows the choices made so far. -/
def showHistory (c : Console) : Console :=
  let history := c.session.history
  let entries : List Text :=
    if history.isEmpty then ["  (none)"]
    else history.map fun entry => "  " ++ entry.scene ++ ": " ++ entry.choice
  c.sayAll ("" :: "【Your choices】" :: entries)

/-- Shows the variables; an integer with too many digits cannot be shown. -/
def showVariables (c : Console) : Except Crash Console :=
  let entries := c.session.store.entries
  if entries.any (fun (_, value) => value.isOverlong) then .error ⟨c, .tooManyDigits⟩
  else .ok (c.say ("  " ++ Text.join "  "
    (entries.map fun (name, value) => name ++ "=" ++ value.shown)))

/-- Shows what can be typed. -/
def showHelp (c : Console) : Console :=
  c.sayAll ["",
    "【Commands】",
    "  Enter     - continue",
    "  number    - pick a choice",
    "  history   - show your choices so far",
    "  vars      - show variables",
    "  save      - save the game",
    "  load      - load the game",
    "  help/h    - show this help",
    "  quit/q    - quit"]

end Gamebook.Console

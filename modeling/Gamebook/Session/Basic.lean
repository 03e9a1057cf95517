/-
# Sessions

A session is one reading of a story: where the reader stands, the variables, what is staged and
the choices made so far.  `Game` is what a session is played on: a story and a configuration.

The lines of the scene are kept with the session, as they are when the scene is entered, and
the index is the place among them.  The observations below say what a reader sees.
-/
import Gamebook.Ending
import Gamebook.Session.Listeners
import Gamebook.Session.Save
import Gamebook.Session.Staging
import Gamebook.Story.Basic
import Gamebook.Variable.Condition

namespace Gamebook

/-- A story with its configuration. -/
structure Game where
  story : Story
  config : Config
deriving DecidableEq, Inhabited

/-- One entry of the history: the name of the scene in which a choice was made, and its text. -/
structure ChoiceRecord where
  scene : Text
  choice : Text
deriving DecidableEq, Inhabited

/-- One reading of a story. -/
structure Session where
  /-- The current scene; empty before the first start. -/
  scene : Text := []
  /-- The lines of the current scene. -/
  lines : List Line := []
  /-- The place of the current line. -/
  index : Nat := 0
  /-- The variables. -/
  store : Store := .empty
  staging : Staging := {}
  history : List ChoiceRecord := []
  /-- Whether the ending of this session was reported. -/
  endingReported : Bool := false
  listeners : Listeners := {}
  /-- Where draws come from. -/
  source : Source
deriving DecidableEq, Inhabited

/-- The state of a session as a whole. -/
inductive Session.State where
  | notStarted
  | playing
  | choiceGated
  | responseStaged
  | transitionStaged
  | terminal
deriving DecidableEq, Repr, Inhabited

namespace Session

/-- A session that was not started yet. -/
def fresh (source : Source) : Session := { source }

/-- The current line, if there is one. -/
def line? (s : Session) : Option Line := s.lines[s.index]?

/-- The current scene as the story describes it. -/
def scene? (s : Session) (game : Game) : Option Scene := game.story.scene? s.scene

/-- Whether the reader stands at a gate with nothing staged. -/
def atGate (s : Session) : Bool := !s.staging.isStaged && s.line?.any Line.isGate

/-- The choices of the current gate whose conditions hold. -/
def openChoices (s : Session) (game : Game) : List Choice :=
  match s.line?.bind Line.group? with
  | some group =>
    (game.story.choicesOf group).filter fun choice => Condition.holds choice.condition s.store
  | none => []

/-- Whether a response is there to be read. -/
def showsResponse (s : Session) : Bool := s.staging.response.isSome

/-- Whether a destination is staged and no response comes before it. -/
def awaitsTransition (s : Session) : Bool :=
  s.staging.destination.isSome && s.staging.response.isNone

/-- Whether the current scene is an ending. -/
def inEnding (s : Session) (game : Game) : Bool := game.config.isEndingScene s.scene

/-- How far along the reader is: all the way in an ending, else the milestone of the scene. -/
def progress (s : Session) (game : Game) : Number :=
  if s.inEnding game then .ofDecimal 1 0
  else (game.config.milestones.find? s.scene).getD (.double (.zero false))

/-- Whether there is nothing left to read in the current scene. -/
def atEnd (s : Session) : Bool :=
  s.line?.isNone
    || (s.index + 1 == s.lines.length && !s.atGate && !s.showsResponse && !s.awaitsTransition)

/-- The state of the session. -/
def state (s : Session) (game : Game) : State :=
  if s.scene.isEmpty then .notStarted
  else if s.showsResponse then .responseStaged
  else if s.awaitsTransition then .transitionStaged
  else if s.atGate then .choiceGated
  else if s.inEnding game && s.atEnd then .terminal
  else .playing

/-- What is needed to take the session up again. -/
def save (s : Session) : Save := ⟨s.scene, s.index, s.store⟩

end Session
end Gamebook

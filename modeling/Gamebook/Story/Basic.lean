/-
# Stories

The content of a gamebook: scenes, the lines spoken in them, the choices a reader is given, the
characters and the variables.  A line whose speaker is `→CHOICE:` followed by the name of a
group is no spoken line but a **gate**: the reader goes on only by one of the choices of that
group.  A choice leads to a scene, or to `→ENDING`: the ending that the variables call for.

Content is kept in the order in which it was written; a look-up takes the first entry.
-/
import Gamebook.Variable.Store

namespace Gamebook

/-- A scene; its picture and its music are left to whoever presents it. -/
structure Scene where
  id : Text
  name : Text := []
  picture : Text := []
  music : Text := []
deriving DecidableEq, Inhabited

/-- A line of a scene: spoken, or a gate. -/
structure Line where
  id : Int
  scene : Text
  speaker : Text
  text : Text := []
  expression : Text := []
deriving DecidableEq, Inhabited

/-- One of the options at a gate. -/
structure Choice where
  /-- The group that gates name. -/
  group : Text
  text : Text
  /-- When the option is offered. -/
  condition : Text := []
  /-- What choosing it does to the variables. -/
  effect : Text := []
  /-- The scene that it leads to. -/
  destination : Text := []
  /-- What is read before going there. -/
  response : Text := []
deriving DecidableEq, Inhabited

/-- A speaker. -/
structure Character where
  id : Text
  name : Text
  color : Text := []
  picture : Text := []
deriving DecidableEq, Inhabited

/-- A story: all its content, each kind in load order. -/
structure Story where
  scenes : List Scene := []
  lines : List Line := []
  choices : List Choice := []
  characters : List Character := []
  variableDefs : List VariableDef := []
deriving DecidableEq, Inhabited

namespace Line

/-- What the speaker of a gate starts with. -/
def gateMark : Text := "→CHOICE:"

/-- Whether a line is a gate. -/
def isGate (line : Line) : Bool := gateMark.isPrefixOf line.speaker

/-- The group of choices that a gate opens; a spoken line has none. -/
def group? (line : Line) : Option Text :=
  if line.isGate then some (line.speaker.drop gateMark.length) else none

end Line

/-- The destination that stands for the ending that the variables call for. -/
def endingMark : Text := "→ENDING"

/-- Whether a choice leads to the ending that the variables call for. -/
def Choice.leadsToEnding (choice : Choice) : Bool := choice.destination == endingMark

namespace Story

/-- The first scene of a name. -/
def scene? (story : Story) (id : Text) : Option Scene := story.scenes.find? (·.id == id)

/-- The lines of a scene. -/
def linesOf (story : Story) (scene : Text) : List Line :=
  story.lines.filter (·.scene == scene)

/-- The choices of a group. -/
def choicesOf (story : Story) (group : Text) : List Choice :=
  story.choices.filter (·.group == group)

/-- The first character of a name. -/
def character? (story : Story) (id : Text) : Option Character :=
  story.characters.find? (·.id == id)

end Story
end Gamebook

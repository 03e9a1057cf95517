/-
# Problems of a story

What a careful author wants to know before anyone plays: names that are used and not defined,
names that are defined twice, clauses that nothing recognises.  Play tolerates all of them, so
a problem is advice.  `Story.problems` lists them in a fixed order; `Problem.message` words one.
-/
import Gamebook.Config
import Gamebook.Story.Basic
import Gamebook.Variable.Condition
import Gamebook.Variable.Effect

namespace Gamebook

/-- One thing that is wrong with a story. -/
inductive Problem where
  | noScenes
  | duplicateScene (id : Text)
  | duplicateVariable (name : Text)
  | lineScene (line : Line)
  | emptyGroup (line : Line) (group : Text)
  | speaker (line : Line)
  | destination (choice : Choice)
  | unreadableCondition (choice : Choice) (clause : Text)
  | undefinedVariable (choice : Choice) (name : Text)
  | unknownEffect (choice : Choice) (clause : Text)
  | missingEnding (scene : Text)
deriving DecidableEq

namespace Problem

/-- How a line is referred to. -/
def lineContext (line : Line) : Text := "Dialogue " ++ toString line.id ++ ": "

/-- How a choice is referred to. -/
def choiceContext (choice : Choice) : Text :=
  "Choice '" ++ choice.text ++ "' (" ++ choice.group ++ "): "

/-- The wording of a problem. -/
def message : Problem → Text
  | .noScenes => "Story defines no scenes."
  | .duplicateScene id => "Duplicate scene id '" ++ id ++ "'."
  | .duplicateVariable name => "Duplicate variable '" ++ name ++ "'."
  | .lineScene line => lineContext line ++ "unknown scene '" ++ line.scene ++ "'."
  | .emptyGroup line group => lineContext line ++ "choice group '" ++ group ++ "' has no choices."
  | .speaker line => lineContext line ++ "unknown character '" ++ line.speaker ++ "'."
  | .destination choice =>
    choiceContext choice ++ "unknown target scene '" ++ choice.destination ++ "'."
  | .unreadableCondition choice clause =>
    choiceContext choice ++ "unparsable condition '" ++ clause ++ "'."
  | .undefinedVariable choice name =>
    choiceContext choice ++ "condition uses undefined variable '" ++ name ++ "'."
  | .unknownEffect choice clause =>
    choiceContext choice ++ "unrecognized effect '" ++ clause ++ "'."
  | .missingEnding scene =>
    "'" ++ endingMark ++ "' is used but ending scene '" ++ scene ++ "' is missing."

end Problem

namespace Story

/-- The names that occur more than once, each once, in the order of their characters. -/
def duplicates (names : List Text) : List Text :=
  (names.eraseDups.filter fun name => 1 < names.count name).mergeSort Text.le

/-- The names of the scenes. -/
def sceneIds (story : Story) : List Text := story.scenes.map Scene.id

/-- The problems of the names of scenes and variables. -/
def nameProblems (story : Story) : List Problem :=
  (if story.scenes.isEmpty then [.noScenes] else [])
    ++ (duplicates story.sceneIds).map .duplicateScene
    ++ (duplicates (story.variableDefs.map VariableDef.name)).map .duplicateVariable

/-- The problems of a line: its scene, and its group or its speaker. -/
def lineProblems (story : Story) (line : Line) : List Problem :=
  (if story.sceneIds.contains line.scene then [] else [.lineScene line])
    ++ match line.group? with
      | some group =>
        if (story.choices.map Choice.group).contains group then [] else [.emptyGroup line group]
      | none =>
        if line.speaker.isEmpty || (story.characters.map Character.id).contains line.speaker then []
        else [.speaker line]

/-- The problem of one clause of a condition, if it has one. -/
def conditionProblems (story : Story) (choice : Choice) (clause : Text) : List Problem :=
  match Comparison.ofClause? clause with
  | none => [.unreadableCondition choice clause]
  | some c =>
    if (story.variableDefs.map VariableDef.name).contains c.name then []
    else [.undefinedVariable choice c.name]

/-- The problem of one clause of an effect, if it has one. -/
def effectProblems (choice : Choice) (clause : Text) : List Problem :=
  if (Change.ofClause? clause).isSome then []
  else [.unknownEffect choice clause]

/-- The problems of a choice: its destination, then its condition, then its effect. -/
def choiceProblems (story : Story) (choice : Choice) : List Problem :=
  (if choice.leadsToEnding || story.sceneIds.contains choice.destination then []
    else [.destination choice])
    ++ (Condition.clauses choice.condition).flatMap (conditionProblems story choice)
    ++ (Effect.clauses choice.effect).flatMap (effectProblems choice)

/-- The endings that are missing although some choice leads to an ending. -/
def endingProblems (story : Story) (config : Config) : List Problem :=
  if story.choices.any Choice.leadsToEnding then
    ([config.goodEnding, config.neutralEnding, config.badEnding, config.deathEnding].filter
      fun ending => !story.sceneIds.contains ending).map .missingEnding
  else []

/-- **All problems of a story**: of names, of lines, of choices, and missing endings. -/
def problems (story : Story) (config : Config) : List Problem :=
  story.nameProblems
    ++ story.lines.flatMap story.lineProblems
    ++ story.choices.flatMap story.choiceProblems
    ++ story.endingProblems config

/-- The problems of a story as far as they can be told: none can be told of a line whose id has
too many digits to be shown. -/
def review (story : Story) (config : Config) : Except Fault (List Problem) :=
  if story.lines.any fun line => (Number.int line.id).isOverlong then .error .tooManyDigits
  else .ok (story.problems config)

end Story
end Gamebook

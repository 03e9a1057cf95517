/-
# The program

What the program does with its options and the files around it: it loads a story, and then
lists its problems, or opens a console on it.  `Opening` is what that leads to; all that is
left to do is to show it and, on a console, to read what the player types.
-/
import Gamebook.CommandLine.Options
import Gamebook.Console.Play
import Gamebook.Story.Load
import Gamebook.Story.Problem
import Gamebook.Yaml.Document

namespace Gamebook

/-- What a run of the program begins with. -/
inductive Opening where
  /-- The story cannot be loaded. -/
  | failed (error : LoadError)
  /-- The story was only checked. -/
  | checked (problems : List Problem)
  | playing (console : Console)

namespace Opening

/-- The story that is played if none is named. -/
def usualStory : String := "stories/october"

/-- A story that is ready to be played, on a console that keeps its reports.  A seed among the
options goes before the one of the story; without any, draws come from `chance`. -/
def play (options : Options) (files : FileTree Bytes) (chance : Source) (story : Story)
    (manifest : Manifest) : Opening :=
  let seed := options.seed.or manifest.config.seed
  let config := { manifest.config with seed }
  .playing (Console.fresh ⟨story, config⟩ { manifest with config } (Path.ofText options.save) files
    ((seed.map Source.ofSeed).getD chance) (some []))

/-- **Carries out the options**; `logs` is whether there is a log at all. -/
def ofOptions (logs : Bool) (options : Options) (files : FileTree Bytes) (chance : Source) :
    Except Fault Opening :=
  let folder := Path.ofText (options.story.getD usualStory)
  match Story.load (logs && options.logLevel.warns) Yaml.decoder files folder with
  | .error (.fault fault) => .error fault
  | .error (.content error) => .ok (.failed error)
  | .ok (story, manifest) => do
    let problems ← story.review manifest.config
    return if options.validate then .checked problems
      else play options files chance story manifest

/-- The lines that a checked story leads to. -/
def checkedLines (problems : List Problem) : List Text :=
  problems.map Problem.message ++ [.ofString (toString problems.length ++ " problem(s) found.")]

/-- The line that a story which cannot be loaded leads to. -/
def failedLine (error : LoadError) : String := "Failed to load story: " ++ error.message

/-- The exit code of an opening: one, if the story is bad. -/
def exitCode : Opening → Nat
  | .failed _ => 1
  | .checked problems => if problems.isEmpty then 0 else 1
  | .playing _ => 0

end Opening
end Gamebook

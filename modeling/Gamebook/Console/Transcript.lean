/-
# Transcripts

What passes between a console and the player: the messages that are shown, and the questions
with their answers.  A message is a line of text, or tells why saving or loading failed.
-/
import Gamebook.Files.Tree
import Gamebook.Session.Save

namespace Gamebook

/-- What a console shows. -/
inductive Message where
  | line (text : Text)
  /-- The save file cannot be written. -/
  | saveFailed (error : OpenError) (file : Path)
  /-- The save file cannot be opened. -/
  | openFailed (error : OpenError) (file : Path)
  /-- The save file holds no save data. -/
  | loadFailed (reason : Save.Unreadable)

/-- The wording of a message. -/
def Message.wording : Message → Text
  | .line text => text
  | .saveFailed error file => "Save failed: " ++ error.message file.text
  | .openFailed error file => "Load failed: " ++ error.message file.text
  | .loadFailed reason => "Load failed: " ++ reason.message

/-- One step of a conversation. -/
inductive Exchange where
  | told (message : Message)
  /-- A prompt with the line that was typed, or none if the input had ended. -/
  | asked (prompt : String) (answer : Option String)

end Gamebook

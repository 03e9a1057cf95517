/-
# Saving and loading on a console

A session is saved to one file and taken up again from it.  Every way in which this can fail is
shown to the player and leaves the session as it is.
-/
import Gamebook.Console.Basic

namespace Gamebook.Console

/-- Saves the session.  A fault while it is written leaves what was written before. -/
def store (c : Console) : Except Crash Console :=
  let (text, fault) := c.session.save.written
  match c.files.write c.savePath (Utf8.encode text.toList) with
  | .error .badPath => .error ⟨c, .badPath⟩
  | .error error => .ok (c.tell (.saveFailed error c.savePath))
  | .ok files =>
    let c := { c with files }
    match fault with
    | some fault => .error ⟨c, fault⟩
    | none => .ok (c.say "Saved.")

/-- Takes the saved session up again. -/
def restore (c : Console) : Except Crash Console :=
  match c.files.find c.savePath with
  | .missing | .notFolder => .ok (c.say "No save data.")
  | .tooLong => .error ⟨c, .pathTooLong⟩
  | .folder => .ok (c.tell (.openFailed .isFolder c.savePath))
  | .file content =>
    match Save.ofBytes content with
    | .error reason =>
      match reason.fault? with
      | some fault => .error ⟨c, fault⟩
      | none => .ok (c.tell (.loadFailed reason))
    | .ok save => do
      let c ← { c with headed := none }.perform (.load save)
      return c.say "Loaded."

end Gamebook.Console

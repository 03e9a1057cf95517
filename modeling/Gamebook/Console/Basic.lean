/-
# Consoles

A console plays sessions of one game with a player who types lines.  It listens to its session,
so that it knows when the screen is out of date, and it may keep the reports of its sessions.

Everything that a console does is a function from consoles to consoles; what was shown and
asked is kept in the transcript.  A fault ends a run: `Crash` keeps the console as the fault
left it.

It is an **assumption** that showing something does not fail.  What a console shows is handed to a
screen outside, which is taken to show every text; one with an encoding of its own may refuse a text
that is not whole, and that is no part of what is said here of a console that breaks off.
-/
import Gamebook.Console.Transcript
import Gamebook.Session.Command
import Gamebook.Story.Manifest

namespace Gamebook

/-- A console with the session that is played on it. -/
structure Console where
  game : Game
  manifest : Manifest
  /-- Where sessions are saved. -/
  savePath : Path
  /-- The files around the console. -/
  files : FileTree Bytes
  session : Session
  /-- The reports so far, if the console keeps them. -/
  reports : Option (List Report)
  /-- Whether the session changed since it was last shown. -/
  outdated : Bool := false
  /-- The scene whose header was shown last. -/
  headed : Option Text := none
  transcript : Array Exchange := #[]

/-- A fault, with the console as the fault left it. -/
structure Crash where
  console : Console
  fault : Fault

namespace Console

/-- The listener that a console registers with its session. -/
def listener : Listener := { label := "console" }

/-- A console on which no session was started yet. -/
def fresh (game : Game) (manifest : Manifest) (savePath : Path) (files : FileTree Bytes)
    (source : Source) (reports : Option (List Report)) : Console :=
  let session := Session.fresh source
  { game, manifest, savePath, files, reports
    session := { session with listeners := session.listeners.add listener } }

/-! ## 1. Talking -/

/-- Shows a message, which by assumption does not fail. -/
def tell (c : Console) (message : Message) : Console :=
  { c with transcript := c.transcript.push (.told message) }

/-- Shows a line. -/
def say (c : Console) (text : Text) : Console := c.tell (.line text)

/-- Shows lines one after another. -/
def sayAll (c : Console) (lines : List Text) : Console := lines.foldl say c

/-- Notes a question and its answer. -/
def note (c : Console) (prompt : String) (answer : Option String) : Console :=
  { c with transcript := c.transcript.push (.asked prompt answer) }

/-! ## 2. The session -/

/-- Takes over what a command led to: its reports are kept, and if the console was called, the
screen is out of date. -/
def after (c : Console) (outcome : Outcome) : Except Crash Console :=
  let next := { c with
    session := outcome.session
    reports := c.reports.map (· ++ outcome.reports)
    outdated := c.outdated || outcome.called.contains listener }
  match outcome.fault with
  | none => .ok next
  | some fault => .error ⟨next, fault⟩

/-- Carries out a command. -/
def perform (c : Console) (command : Command) : Except Crash Console :=
  c.after (command.run c.game c.session)

end Console
end Gamebook

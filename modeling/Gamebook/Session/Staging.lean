/-
# Staging

When a choice was made, a response may have to be read and a destination may have to be entered.
Both are staged first.  Acknowledging a response keeps the destination; entering the
destination, or going elsewhere, clears both.  An empty response or destination stages nothing.
-/
import Gamebook.Text.Basic

namespace Gamebook

/-- What is staged. -/
structure Staging where
  response : Option Text := none
  destination : Option Text := none
deriving DecidableEq, Inhabited

/-- What a reader has to do next about what is staged. -/
inductive Stage where
  | nothing
  | response
  | transition
deriving DecidableEq, Repr, Inhabited

namespace Staging

/-- A text, unless it is empty. -/
def nonempty (text : Text) : Option Text := if text.isEmpty then none else some text

/-- Whether a text is there and not empty. -/
def present (text : Option Text) : Bool := text.any fun s => !s.isEmpty

/-- Nothing staged. -/
def clear : Staging := {}

/-- Stages a destination and a response. -/
def stage (destination : Text) (response : Option Text) : Staging :=
  ⟨response.bind nonempty, nonempty destination⟩

/-- The response was read. -/
def acknowledge (s : Staging) : Staging := { s with response := none }

/-- Gives the staged destination out, if there is one, and clears what is staged. -/
def commit (s : Staging) : Option Text × Staging := (s.destination, clear)

/-- What has to be done next: a response comes before a transition. -/
def next (s : Staging) : Stage :=
  if present s.response then .response
  else if present s.destination then .transition
  else .nothing

/-- Whether anything is staged. -/
def isStaged (s : Staging) : Bool := s.next != .nothing

end Staging
end Gamebook

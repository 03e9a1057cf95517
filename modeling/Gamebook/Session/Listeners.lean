/-
# Listeners

Those who want to know of changes register and get a handle, with which they can be removed
again.  A notification calls the listeners that are registered when it begins, each once and in
order of registration; a listener may remove listeners while it is called, which takes effect
from the next notification on.
-/

namespace Gamebook

/-- One who is called after a change; when called it removes the listeners of some handles. -/
structure Listener where
  label : String
  removes : List Nat := []
deriving DecidableEq, Inhabited

/-- The registered listeners with their handles, in order of registration. -/
structure Listeners where
  entries : List (Nat × Listener) := []
  /-- The handle of the next registration. -/
  next : Nat := 0
deriving DecidableEq, Inhabited

namespace Listeners

/-- Registers a listener. -/
def add (ls : Listeners) (listener : Listener) : Listeners :=
  ⟨ls.entries ++ [(ls.next, listener)], ls.next + 1⟩

/-- Removes the listener of a handle, if it is still registered. -/
def remove (ls : Listeners) (handle : Nat) : Listeners :=
  { ls with entries := ls.entries.filter (·.1 != handle) }

/-- Removes the listeners of some handles, one after another. -/
def removeAll (ls : Listeners) (handles : List Nat) : Listeners := handles.foldl remove ls

/-- Notifies: the listeners that are called, in order, and the registry that is left. -/
def notify (ls : Listeners) : List Listener × Listeners :=
  let called := ls.entries.map Prod.snd
  (called, called.foldl (fun left listener => left.removeAll listener.removes) ls)

end Listeners
end Gamebook

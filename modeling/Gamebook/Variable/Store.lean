/-
# The store of game variables

The variables of one session are a table from names to values, in order of first arrival.
Reading a name that is not there gives the integer zero.
-/
import Gamebook.Table
import Gamebook.Variable.Value

namespace Gamebook

/-- The variables of a session. -/
abbrev Store := Table Value

/-- The definition of a variable in a story: its name, how its first value is written, and a
description for the author. -/
structure VariableDef where
  name : Text
  initial : Text := "0"
  description : Text := []
deriving DecidableEq, Inhabited

namespace VariableDef

/-- The value that a variable starts with: `true` and `false` are truth values, everything
else is a number, and zero if it denotes none. -/
def value (d : VariableDef) : Value :=
  if d.initial = "true" then .bool true
  else if d.initial = "false" then .bool false
  else .number ((Number.ofText? d.initial).getD .zero)

end VariableDef

namespace Store

/-- The store that definitions give rise to. -/
def ofDefs (defs : List VariableDef) : Store := Table.ofList (defs.map fun d => (d.name, d.value))

/-- The current value of a name. -/
def get (store : Store) (name : Text) : Value := (store.find? name).getD .zero

end Store
end Gamebook

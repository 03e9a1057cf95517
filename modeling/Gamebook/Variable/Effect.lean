/-
# Effects

An effect is a text of clauses separated by commas, carried out from left to right.  A clause
sets a variable to a truth value or to a natural number, or moves it up or down by a natural
number; every other clause is passed over.

* `Change.ofClause?` recognises the clauses that change something.
* `Change.apply` carries one out.  It fails on a numeral with too many digits, and on a step of
  a double by an integer that has no double near it.
* `Effect.apply` carries out a whole effect.  A fault ends it; the clauses before it stay
  applied.
-/
import Gamebook.Text.Split
import Gamebook.Variable.Store

namespace Gamebook

open Text

/-- A change of one variable; amounts are kept as they are written. -/
inductive Change where
  | setBool (name : Text) (b : Bool)
  | setNumber (name : Text) (digits : List Char)
  | increase (name : Text) (digits : List Char)
  | decrease (name : Text) (digits : List Char)
deriving DecidableEq

namespace Change

/-- Digits to the end of a clause, at least one. -/
def amount? (rest : Text) : Option (List Char) :=
  if !rest.isEmpty && rest.all (Letter.isChar isAsciiDigit) then some rest.toChars else none

/-- The change that a clause without surrounding blanks is, if it is one. -/
def ofClause? (clause : Text) : Option Change :=
  let name := clause.takeWhile (Letter.isChar isNameChar)
  if name.isEmpty then none
  else match clause.dropWhile (Letter.isChar isNameChar) with
    | .char '=' :: rest =>
      if rest = "true" then some (.setBool name true)
      else if rest = "false" then some (.setBool name false)
      else (amount? rest).map (.setNumber name)
    | .char '+' :: rest => (amount? rest).map (.increase name)
    | .char '-' :: rest => (amount? rest).map (.decrease name)
    | _ => none

/-- The variable that a change writes. -/
def name : Change → Text
  | .setBool name _ | .setNumber name _ | .increase name _ | .decrease name _ => name

/-- The value that a change gives to its variable, which holds `current` before. -/
def value (change : Change) (current : Value) : Except Fault Value :=
  match change with
  | .setBool _ b => .ok (.bool b)
  | .setNumber _ digits => do
    return .number (.int (← Literal.integerOf false digits))
  | .increase _ digits => do
    return .number (← (current.toNumber .zero).addInt (← Literal.integerOf false digits))
  | .decrease _ digits => do
    return .number (← (current.toNumber .zero).subInt (← Literal.integerOf false digits))

/-- Carries out a change. -/
def apply (change : Change) (store : Store) : Except Fault Store := do
  return store.put change.name (← change.value (store.get change.name))

end Change

namespace Effect

/-- The clauses of an effect, without their surrounding blanks; blank text has none. -/
def clauses (effect : Text) : List Text :=
  if isBlankText effect then [] else (splitAt (.char ',') effect).map strip

/-- Carries out one clause; one that changes nothing is passed over. -/
def applyClause (store : Store) (clause : Text) : Except Fault Store :=
  match Change.ofClause? clause with
  | some change => change.apply store
  | none => .ok store

/-- Carries out clauses until one of them fails; the store is what the others left. -/
def applyClauses : Store → List Text → Store × Option Fault
  | store, [] => (store, none)
  | store, clause :: rest =>
    match applyClause store clause with
    | .ok next => applyClauses next rest
    | .error fault => (store, some fault)

/-- **Carries out an effect**: the store it leaves, and the fault that ended it, if any. -/
def apply (effect : Text) (store : Store) : Store × Option Fault :=
  applyClauses store (clauses effect)

end Effect
end Gamebook

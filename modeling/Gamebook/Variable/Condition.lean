/-
# Conditions

A condition is a text of clauses joined by `&&`.  A clause compares a variable with a literal:
a name, one of the six relations, and the rest of the clause as the literal.  Blank text holds
always, and so does a clause that is no comparison.

* `Comparison.ofClause?` recognises the clauses that are comparisons; the longest relation that
  leaves a literal is taken.
* `Comparison.holds` compares.  Equality tells truth values and numbers apart; the other
  relations count a truth value as one or zero, and are false of whatever is no number.
* `Condition.holds` is the conjunction.
-/
import Gamebook.Text.Split
import Gamebook.Variable.Store

namespace Gamebook

open Text

/-! ## 1. Comparisons -/

/-- How a variable is compared with a literal. -/
inductive Relation where
  | atLeast
  | atMost
  | equal
  | unequal
  | above
  | below
deriving DecidableEq, Repr

namespace Relation

/-- The relations written with two characters, at the start of a text, and what follows. -/
def double? : Text → Option (Relation × Text)
  | .char '>' :: .char '=' :: rest => some (.atLeast, rest)
  | .char '<' :: .char '=' :: rest => some (.atMost, rest)
  | .char '=' :: .char '=' :: rest => some (.equal, rest)
  | .char '!' :: .char '=' :: rest => some (.unequal, rest)
  | _ => none

/-- The relations written with one character, at the start of a text, and what follows. -/
def single? : Text → Option (Relation × Text)
  | .char '>' :: rest => some (.above, rest)
  | .char '<' :: rest => some (.below, rest)
  | _ => none

end Relation

/-- A clause that compares a variable with a literal. -/
structure Comparison where
  name : Text
  relation : Relation
  literal : Text
deriving DecidableEq

namespace Comparison

/-- The literal of a clause: what follows the relation and the blanks after it.  There must be
something, all of it on one line. -/
def literal? (rest : Text) : Option Text :=
  let literal := rest.dropWhile (Letter.isChar isAsciiBlank)
  if literal.isEmpty || literal.contains (.char '\n') then none else some literal

/-- A relation with its literal. -/
def tail? (start : Option (Relation × Text)) : Option (Relation × Text) :=
  start.bind fun (relation, rest) => (literal? rest).map fun literal => (relation, literal)

/-- The comparison that a clause without surrounding blanks is, if it is one. -/
def ofClause? (clause : Text) : Option Comparison :=
  let name := clause.takeWhile (Letter.isChar isNameChar)
  let rest := (clause.dropWhile (Letter.isChar isNameChar)).dropWhile (Letter.isChar isAsciiBlank)
  if name.isEmpty then none
  else
    ((tail? (Relation.double? rest)).or (tail? (Relation.single? rest))).map
      fun (relation, literal) => ⟨name, relation, literal⟩

/-! ## 2. What a comparison says -/

/-- What the literal of a comparison denotes. -/
inductive Operand where
  | bool (b : Bool)
  | number (n : Number)
  | unreadable
deriving DecidableEq

/-- The meaning of a literal: a truth value, a number, or neither. -/
def operand (c : Comparison) : Operand :=
  if c.literal = "true" then .bool true
  else if c.literal = "false" then .bool false
  else match Number.ofText? c.literal with
    | some n => .number n
    | none => .unreadable

/-- The number that an operand counts as. -/
def Operand.toNumber? : Operand → Option Number
  | .bool b => some (.ofBool b)
  | .number n => some n
  | .unreadable => none

/-- Equality of a variable with a literal: both are truth values or both are numbers. -/
def matches? : Value → Operand → Bool
  | .bool a, .bool b => a == b
  | .number m, .number n => m.same n
  | _, _ => false

/-- An order relation between the numbers that the two sides count as. -/
def ordered (r : Number → Number → Bool) (v : Value) (o : Operand) : Bool :=
  match v.toNumber?, o.toNumber? with
  | some m, some n => r m n
  | _, _ => false

/-- Whether a value stands in the relation of a comparison to its literal. -/
def test (relation : Relation) (v : Value) (o : Operand) : Bool :=
  match relation with
  | .equal => matches? v o
  | .unequal => !matches? v o
  | .atLeast => ordered (fun m n => n.le m) v o
  | .atMost => ordered Number.le v o
  | .above => ordered (fun m n => n.lt m) v o
  | .below => ordered Number.lt v o

/-- Whether a comparison holds in a store. -/
def holds (c : Comparison) (store : Store) : Bool := test c.relation (store.get c.name) c.operand

end Comparison

/-! ## 3. Conditions -/

namespace Condition

/-- The clauses of a condition, without their surrounding blanks; blank text has none. -/
def clauses (condition : Text) : List Text :=
  if isBlankText condition then [] else (conjuncts condition).map strip

/-- Whether a clause holds in a store.  One that is no comparison holds in every store. -/
def clauseHolds (store : Store) (clause : Text) : Bool :=
  match Comparison.ofClause? clause with
  | some c => c.holds store
  | none => true

/-- **Whether a condition holds in a store**: all its clauses do. -/
def holds (condition : Text) (store : Store) : Bool :=
  (clauses condition).all (clauseHolds store)

end Condition
end Gamebook

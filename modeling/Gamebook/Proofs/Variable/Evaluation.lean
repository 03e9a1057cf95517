/-
# Conditions, statement by statement

`Condition.holds` says whether a condition holds.  Here a condition is evaluated one statement after
another, in full view of what may fail: an integer is read from a text that may be none or too long,
a double from a text that may be none, and a handler takes over where a numeral cannot be read.
Clauses are evaluated from left to right, and the first one that does not hold ends the evaluation.

No evaluation fails, whatever the text and whatever the store holds, and each comes to what `holds`
says (`evaluate_eq`).  With this a condition is the conjunction of its parts also where it is
evaluated, and the order of the parts and their repetition do not matter (`conjunctive_holds`).
-/
import Gamebook.Proofs.Number.Plain
import Gamebook.Proofs.Variable.Conditions

namespace Gamebook

open Text

/-! ## 1. Statements -/

/-- Whether a fault says that a text is none of the numerals it was taken for. -/
def Fault.isMisreading : Fault → Bool
  | .malformedInteger | .malformedNumber | .tooManyDigits => true
  | _ => false

namespace Condition

/-- Goes on with a handler where a numeral cannot be read; other faults are passed on. -/
def unlessMisread {α : Type} (read handler : Except Fault α) : Except Fault α :=
  match read with
  | .ok a => .ok a
  | .error fault => if fault.isMisreading then handler else .error fault

/-- Reads a double. -/
def readDouble (cs : List Char) : Except Fault Binary64 :=
  match Literal.double? cs with
  | some x => .ok x
  | none => .error .malformedNumber

/-- Reads a number, as an integer if it is one and else as a double; `fallback` stands for what
denotes no number. -/
def readNumber (text : Text) (fallback : Number) : Except Fault Number :=
  let cs := (strip text).toChars
  if cs.isEmpty then .ok (.int 0)
  else if cs.any (fun c => c = '_' || 127 < c.toNat) then .ok fallback
  else
    unlessMisread (do return .int (← Literal.integer? cs)) <|
    unlessMisread (do
      let x ← readDouble cs
      return if x.isNaN then fallback else .double x) <|
    .ok fallback

/-- The number that a value counts as; `fallback` stands for that of one that counts as none. -/
def numberOf (value : Value) (fallback : Number) : Except Fault Number :=
  match value with
  | .bool b => .ok (.ofBool b)
  | .number n => .ok (if n.isNaN then fallback else n)
  | .text t => readNumber t fallback
  | .null => .ok fallback

/-- The value of a literal; it is NaN if the literal denotes none. -/
def valueOf (literal : Text) : Except Fault Value :=
  if literal = "true" then .ok (.bool true)
  else if literal = "false" then .ok (.bool false)
  else do return .number (← readNumber literal (.double .nan))

/-- Whether two values are equal; a truth value equals truth values only. -/
def equal : Value → Value → Bool
  | .bool a, .bool b => a == b
  | .number m, .number n => m.same n
  | .text s, .text t => s == t
  | .null, .null => true
  | _, _ => false

/-- Whether two values stand in an order, as the numbers that they count as. -/
def inOrder (order : Number → Number → Bool) (left right : Value) : Except Fault Bool := do
  let m ← numberOf left (.double .nan)
  let n ← numberOf right (.double .nan)
  return order m n

/-- Evaluates a comparison. -/
def evaluateComparison (c : Comparison) (store : Store) : Except Fault Bool := do
  let current := store.get c.name
  let target ← valueOf c.literal
  match c.relation with
  | .equal => return equal current target
  | .unequal => return !equal current target
  | .atLeast => inOrder (fun m n => n.le m) current target
  | .atMost => inOrder Number.le current target
  | .above => inOrder (fun m n => n.lt m) current target
  | .below => inOrder Number.lt current target

/-- Evaluates a clause. -/
def evaluateClause (store : Store) (clause : Text) : Except Fault Bool :=
  match Comparison.ofClause? clause with
  | some c => evaluateComparison c store
  | none => .ok true

/-- **Evaluates a condition**, clause by clause until one does not hold. -/
def evaluate (condition : Text) (store : Store) : Except Fault Bool :=
  if isBlankText condition then .ok true
  else ((conjuncts condition).map strip).allM (evaluateClause store)

/-! ## 2. Evaluation does not fail -/

variable {text condition : Text} {store : Store} {fallback : Number}

theorem not_asciiBlank_toChar {letter : Letter} (solid : letter.isChar isBlank = false) :
    isAsciiBlank letter.toChar = false := by
  cases letter with
  | char c => exact isAsciiBlank_of_not_blank solid
  | half offset => rfl

/-- What is left of a text for the readers of numerals. -/
theorem plain_of_strip
    (known : (strip text).toChars.any (fun c => c = '_' || 127 < c.toNat) = false) :
    Literal.Plain (strip text).toChars where
  ascii := by
    intro c mem
    have known := List.any_eq_false.mp known c mem
    simp only [Bool.or_eq_true, decide_eq_true_eq, not_or, Nat.not_lt] at known
    exact known.2
  smooth := by
    intro mem
    have known := List.any_eq_false.mp known '_' mem
    simp at known
  bare := by
    refine stripWhile_of_ends ?_ ?_
    · intro c first
      rw [toChars, List.head?_map, Option.mem_def, Option.map_eq_some_iff] at first
      rcases first with ⟨letter, first, rfl⟩
      exact not_asciiBlank_toChar (head_stripWhile first)
    · intro c last
      rw [toChars, List.getLast?_map, Option.mem_def, Option.map_eq_some_iff] at last
      rcases last with ⟨letter, last, rfl⟩
      exact not_asciiBlank_toChar (last_stripWhile last)

theorem isMisreading_integerOf {negative : Bool} {digits : List Char} {fault : Fault}
    (failed : Literal.integerOf negative digits = .error fault) : fault.isMisreading = true := by
  unfold Literal.integerOf at failed
  split at failed
  · cases failed
    rfl
  · contradiction

theorem readDouble_eq {cs : List Char} (plain : Literal.Plain cs) (fallback : Number) :
    unlessMisread (do
      let x ← readDouble cs
      return if x.isNaN then fallback else .double x) (.ok fallback) =
        .ok (match Literal.asciiDouble? cs with
          | some .nan => fallback
          | some x => .double x
          | none => fallback) := by
  unfold readDouble
  rw [Literal.double?_of_plain plain]
  cases Literal.asciiDouble? cs with
  | none => rfl
  | some x => cases x <;> rfl

/-- **Reading a number does not fail**, and finds the number that the text denotes. -/
theorem readNumber_eq (text : Text) (fallback : Number) :
    readNumber text fallback = .ok ((Number.ofText? text).getD fallback) := by
  unfold readNumber Number.ofText?
  simp only
  split
  · rfl
  split
  · rfl
  rename_i known
  have plain := plain_of_strip (Bool.eq_false_iff.mpr known)
  rw [readDouble_eq plain, Literal.integer?_of_plain plain, Literal.asciiInteger?]
  generalize Literal.asciiDouble? (strip text).toChars = double
  have later : (match double with
      | some .nan => fallback
      | some x => .double x
      | none => fallback) = (match double with
      | some .nan => none
      | some x => some (Number.double x)
      | none => none : Option Number).getD fallback := by
    rcases double with _ | (_ | _ | _) <;> rfl
  rw [later]
  cases Literal.integerParts? (strip text).toChars with
  | none => rfl
  | some parts =>
    simp only [Option.bind_some, Option.map_some, Option.getD_some]
    cases read : Literal.integerOf parts.1 parts.2 with
    | ok n => rfl
    | error fault =>
      simp only [unlessMisread, bind, Except.bind, isMisreading_integerOf read]
      rfl

theorem numberOf_eq (v : Value) (fallback : Number) :
    numberOf v fallback = .ok (v.toNumber fallback) := by
  cases v with
  | null => rfl
  | bool b => rfl
  | number n =>
    simp only [numberOf, Value.toNumber, Value.toNumber?]
    cases n.isNaN <;> rfl
  | text t => exact readNumber_eq t fallback

/-- The value that a literal is evaluated to. -/
def toValue : Comparison.Operand → Value
  | .bool b => .bool b
  | .number n => .number n
  | .unreadable => .number (.double .nan)

theorem valueOf_eq (c : Comparison) : valueOf c.literal = .ok (toValue c.operand) := by
  unfold valueOf Comparison.operand
  split
  · rfl
  split
  · rfl
  rw [readNumber_eq]
  cases Number.ofText? c.literal <;> rfl

theorem toNumber_toValue (o : Comparison.Operand) :
    (toValue o).toNumber (.double .nan) = o.toNumber?.getD (.double .nan) := by
  rcases o with b | (n | (_ | _ | _)) | _ <;> rfl

/-- NaN stands in no relation. -/
theorem related_nan (r : Number.Position → Number.Position → Bool) (n : Number) :
    Number.related r (.double .nan) n = false ∧ Number.related r n (.double .nan) = false := by
  unfold Number.related
  constructor
  · rfl
  · cases n.position <;> rfl

theorem equal_eq (v : Value) (o : Comparison.Operand) :
    equal v (toValue o) = Comparison.matches? v o := by
  rcases v with _ | a | m | t <;> rcases o with b | n | _
  all_goals first | rfl | exact (related_nan _ m).2

theorem inOrder_eq {order : Number → Number → Bool} (v : Value) (o : Comparison.Operand)
    (nan : ∀ n, order (.double .nan) n = false ∧ order n (.double .nan) = false) :
    inOrder order v (toValue o) = .ok (Comparison.ordered order v o) := by
  unfold inOrder Comparison.ordered
  rw [numberOf_eq, numberOf_eq, toNumber_toValue, Value.toNumber]
  cases v.toNumber? with
  | none => simp [bind, Except.bind, pure, Except.pure, nan]
  | some m => cases o.toNumber? <;> simp [bind, Except.bind, pure, Except.pure, nan]

theorem evaluateComparison_eq (c : Comparison) (store : Store) :
    evaluateComparison c store = .ok (c.holds store) := by
  have lt := fun n => related_nan Number.Position.lt n
  have le := fun n => related_nan (fun p q => !Number.Position.lt q p) n
  unfold evaluateComparison Comparison.holds Comparison.test
  rw [valueOf_eq]
  simp only [bind, Except.bind]
  cases c.relation with
  | equal => rw [equal_eq]; rfl
  | unequal => rw [equal_eq]; rfl
  | atLeast => exact inOrder_eq _ _ fun n => (le n).symm
  | atMost => exact inOrder_eq _ _ le
  | above => exact inOrder_eq _ _ fun n => (lt n).symm
  | below => exact inOrder_eq _ _ lt

theorem evaluateClause_eq (store : Store) (clause : Text) :
    evaluateClause store clause = .ok (clauseHolds store clause) := by
  unfold evaluateClause clauseHolds
  cases Comparison.ofClause? clause with
  | none => rfl
  | some c => exact evaluateComparison_eq c store

/-- **Evaluating a condition does not fail**, and comes to whether the condition holds. -/
theorem evaluate_eq (condition : Text) (store : Store) :
    evaluate condition store = .ok (holds condition store) := by
  have all (parts : List Text) :
      parts.allM (evaluateClause store) = .ok (parts.all (clauseHolds store)) := by
    induction parts with
    | nil => rfl
    | cons part rest ih =>
      rw [List.allM, evaluateClause_eq, List.all_cons, ih]
      cases clauseHolds store part <;> rfl
  unfold evaluate holds clauses
  split
  · rfl
  · exact all _

/-! ## 3. Parts of conditions -/

variable {a : Text} {parts : List Text}

theorem holds_append (closed : Closed a) (b : Text) (store : Store) :
    holds (a ++ conjunction ++ b) store = (holds a store && holds b store) := by
  rw [holds_eq, conjuncts_append closed, List.all_append, ← holds_eq, ← holds_eq]

theorem holds_of_blank (blank : isBlankText condition = true) (store : Store) :
    holds condition store = true := by
  unfold holds clauses
  rw [if_pos blank]
  rfl

/-- **Conditions that are joined hold together**, unless one of them ends in half a conjunction. -/
theorem holds_join (closed : ∀ part ∈ parts, Closed part) (store : Store) :
    holds (join conjunction parts) store = parts.all fun part => holds part store := by
  induction parts with
  | nil => rfl
  | cons part rest ih =>
    rcases List.forall_mem_cons.mp closed with ⟨first, later⟩
    by_cases last : rest = []
    · subst last
      simp [join]
    · rw [join_cons last, holds_append first, ih later, List.all_cons]

/-- What conditions are as conjunctions, in one store. -/
structure Conjunctive (store : Store) : Prop where
  /-- A condition in front of a conjunction, and one behind it; the first may not end in half a
  conjunction. -/
  conjunction : ∀ a b : Text, Closed a →
    holds (a ++ Text.conjunction ++ b) store = (holds a store && holds b store)
  blank : ∀ a : Text, isBlankText a = true → holds a store = true
  /-- The same conditions in any order, each any number of times. -/
  rearranged : ∀ parts others : List Text, (∀ part ∈ parts, Closed part) →
    (∀ part ∈ others, Closed part) → (∀ part, part ∈ parts ↔ part ∈ others) →
      holds (join Text.conjunction parts) store = holds (join Text.conjunction others) store
  /-- Evaluation ends without a fault, whatever the text. -/
  total : ∀ condition : Text, evaluate condition store = .ok (holds condition store)

/-- **A condition is the conjunction of its parts**, and its evaluation does not fail. -/
theorem conjunctive_holds (store : Store) : Conjunctive store where
  conjunction := by
    intro a b closed
    exact holds_append closed b store
  blank := by
    intro a blank
    exact holds_of_blank blank store
  rearranged := by
    intro parts others closed closed' same
    rw [holds_join closed, holds_join closed', Bool.eq_iff_iff, List.all_eq_true,
      List.all_eq_true]
    constructor
    · intro all part mem
      exact all part ((same part).mpr mem)
    · intro all part mem
      exact all part ((same part).mp mem)
  total := by
    intro condition
    exact evaluate_eq condition store

end Condition
end Gamebook

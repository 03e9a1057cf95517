/-
# Effects, name by name

A store is changed name by name.  What an effect makes of one name depends on what that name held
and on the clauses that write it, and on nothing else; so clauses for different names may stand in
between, and no name leaks into another one (`independent_apply`).

* **Readings.**  Clauses are held against three patterns, one for truth values, one for steps and
  one for numbers.  No clause fits two of them (`Pattern.reads_unique`), so it does not matter which
  of them is tried first (`Pattern.first_reading`).
* **Changes.**  An effect that is not broken off is its changes, one after another
  (`applyClauses_eq_done_iff`); what they write is followed along their row, for one name
  (`value_after`) and for the order of the names (`names_after`).
-/
import Gamebook.Proofs.Variable.Limits

namespace Gamebook

open Text

/-! ## 1. The patterns of clauses -/

/-- What clauses are held against. -/
inductive Pattern where
  /-- A name, `=`, and `true` or `false`. -/
  | truth
  /-- A name, `+` or `-`, and digits. -/
  | step
  /-- A name, `=` and digits. -/
  | number
deriving DecidableEq

/-- The pattern that a change is written in. -/
def Change.pattern : Change → Pattern
  | .setBool _ _ => .truth
  | .increase _ _ | .decrease _ _ => .step
  | .setNumber _ _ => .number

namespace Pattern

variable {pattern other : Pattern} {clause : Text} {change change' : Change}

/-- **A clause fits a pattern, with a reading**: it is how that change is written. -/
def Reads (pattern : Pattern) (clause : Text) (change : Change) : Prop :=
  change.pattern = pattern ∧ change.Regular ∧ clause = change.spelling

/-- Holds a clause against one pattern. -/
def read? (pattern : Pattern) (clause : Text) : Option Change :=
  let name := clause.takeWhile (Letter.isChar isNameChar)
  if name.isEmpty then none
  else match pattern, clause.dropWhile (Letter.isChar isNameChar) with
    | .truth, .char '=' :: rest =>
      if rest = "true" then some (.setBool name true)
      else if rest = "false" then some (.setBool name false)
      else none
    | .step, .char '+' :: rest => (Change.amount? rest).map (.increase name)
    | .step, .char '-' :: rest => (Change.amount? rest).map (.decrease name)
    | .number, .char '=' :: rest => (Change.amount? rest).map (.setNumber name)
    | _, _ => none

theorem ofClause?_of_read? (reads : pattern.read? clause = some change) :
    Change.ofClause? clause = some change ∧ change.pattern = pattern := by
  unfold read? at reads
  unfold Change.ofClause?
  simp only at reads ⊢
  generalize clause.takeWhile (Letter.isChar isNameChar) = name at reads ⊢
  generalize clause.dropWhile (Letter.isChar isNameChar) = tail at reads ⊢
  split at reads
  · contradiction
  rename_i named
  rw [if_neg named]
  split at reads
  · split at reads
    · rename_i word
      obtain rfl := Option.some.inj reads
      exact ⟨if_pos word, rfl⟩
    · rename_i other
      split at reads
      · rename_i word
        obtain rfl := Option.some.inj reads
        exact ⟨(if_neg other).trans (if_pos word), rfl⟩
      · contradiction
  · obtain ⟨digits, -, rfl⟩ := Option.map_eq_some_iff.mp reads
    exact ⟨reads, rfl⟩
  · obtain ⟨digits, -, rfl⟩ := Option.map_eq_some_iff.mp reads
    exact ⟨reads, rfl⟩
  · rename_i rest
    obtain ⟨digits, amount, rfl⟩ := Option.map_eq_some_iff.mp reads
    -- No amount is a truth value.
    have notTrue : rest ≠ "true" := by
      rintro rfl
      contradiction
    have notFalse : rest ≠ "false" := by
      rintro rfl
      contradiction
    exact ⟨(if_neg notTrue).trans ((if_neg notFalse).trans reads), rfl⟩
  · contradiction

theorem read?_of_ofClause? (reads : Change.ofClause? clause = some change) :
    change.pattern.read? clause = some change := by
  unfold Change.ofClause? at reads
  unfold read?
  simp only at reads ⊢
  generalize clause.takeWhile (Letter.isChar isNameChar) = name at reads ⊢
  generalize clause.dropWhile (Letter.isChar isNameChar) = tail at reads ⊢
  split at reads
  · contradiction
  rename_i named
  rw [if_neg named]
  split at reads
  · split at reads
    · rename_i word
      obtain rfl := Option.some.inj reads
      exact if_pos word
    · rename_i other
      split at reads
      · rename_i word
        obtain rfl := Option.some.inj reads
        exact (if_neg other).trans (if_pos word)
      · obtain ⟨digits, -, rfl⟩ := Option.map_eq_some_iff.mp reads
        exact reads
  · obtain ⟨digits, -, rfl⟩ := Option.map_eq_some_iff.mp reads
    exact reads
  · obtain ⟨digits, -, rfl⟩ := Option.map_eq_some_iff.mp reads
    exact reads
  · contradiction

/-- What one pattern reads is what a clause is read as. -/
theorem read?_eq_some_iff : pattern.read? clause = some change ↔ pattern.Reads clause change := by
  unfold Reads
  rw [← Change.ofClause?_eq_some_iff]
  constructor
  · intro reads
    exact (ofClause?_of_read? reads).symm
  · rintro ⟨rfl, reads⟩
    exact read?_of_ofClause? reads

/-- **A clause fits one pattern at most, and with one reading.** -/
theorem reads_unique (reads : pattern.Reads clause change) (reads' : other.Reads clause change') :
    pattern = other ∧ change = change' := by
  obtain ⟨rfl, known⟩ := reads
  obtain ⟨rfl, known'⟩ := reads'
  have same : some change = some change' :=
    (Change.ofClause?_eq_some_iff.mpr known).symm.trans (Change.ofClause?_eq_some_iff.mpr known')
  obtain rfl := Option.some.inj same
  exact ⟨rfl, rfl⟩

/-- **It does not matter which pattern is tried first**, if only all of them are tried. -/
theorem first_reading {order : List Pattern} (all : ∀ pattern, pattern ∈ order) (clause : Text) :
    order.findSome? (·.read? clause) = Change.ofClause? clause := by
  cases first : order.findSome? (·.read? clause) with
  | none =>
    have none_reads := List.findSome?_eq_none_iff.mp first
    cases reads : Change.ofClause? clause with
    | none => rfl
    | some change =>
      have fits := read?_of_ofClause? reads
      rw [none_reads _ (all change.pattern)] at fits
      contradiction
  | some change =>
    obtain ⟨pattern, -, fits⟩ := List.exists_of_findSome?_eq_some first
    exact (ofClause?_of_read? fits).1.symm

end Pattern

/-! ## 2. One name among others -/

theorem Store.get_put (store : Store) (name other : Text) (value : Value) :
    Store.get (store.put name value) other = if other = name then value else store.get other := by
  unfold Store.get
  rw [Table.find?_put]
  split <;> rfl

namespace Effect

variable {store last : Store} {name : Text} {row : List Change}

/-- **Clauses that are not broken off are their changes**, one after another. -/
theorem applyClauses_eq_done_iff {clauses : List Text} :
    applyClauses store clauses = (last, none) ↔
      (changes clauses).foldlM (fun store change => change.apply store) store = .ok last := by
  induction clauses generalizing store with
  | nil => simp [applyClauses, changes, pure, Except.pure]
  | cons clause rest ih =>
    cases reads : Change.ofClause? clause with
    | none =>
      have passed : applyClause store clause = .ok store := by
        unfold applyClause
        rw [reads]
      rw [applyClauses_cons passed, changes_of_none reads, ih]
    | some change =>
      have one : applyClause store clause = change.apply store := by
        unfold applyClause
        rw [reads]
      rw [changes_of_some reads, List.foldlM_cons]
      cases applied : change.apply store with
      | error fault =>
        rw [applyClauses_of_error (one.trans applied)]
        refine iff_of_false (fun done => ?_) (fun done => ?_)
        · cases done
        · cases done
      | ok next =>
        rw [applyClauses_cons (one.trans applied)]
        exact ih

/-- What a change that does not fail writes. -/
theorem apply_eq_ok_iff {change : Change} {next : Store} :
    change.apply store = .ok next ↔
      ∃ value, change.value (store.get change.name) = .ok value ∧
        next = store.put change.name value := by
  unfold Change.apply
  rw [bind_ok_iff]
  simp [pure, Except.pure, eq_comm]

/-- The changes of one name. -/
def changesOf (name : Text) (row : List Change) : List Change :=
  row.filter fun change => change.name = name

/-- What some changes make of a value. -/
def valueAfter (row : List Change) (value : Value) : Except Fault Value :=
  row.foldlM (fun value change => change.value value) value

theorem changesOf_cons_self (change : Change) (row : List Change) :
    changesOf change.name (change :: row) = change :: changesOf change.name row :=
  List.filter_cons_of_pos (by simp)

theorem changesOf_cons_of_ne {change : Change} (other : change.name ≠ name) (row : List Change) :
    changesOf name (change :: row) = changesOf name row :=
  List.filter_cons_of_neg (by simpa using other)

/-- **A name has what its own changes make of it**, whatever stands between them. -/
theorem value_after (name : Text)
    (done : row.foldlM (fun store change => change.apply store) store = .ok last) :
    valueAfter (changesOf name row) (store.get name) = .ok (last.get name) := by
  induction row generalizing store with
  | nil =>
    obtain rfl := Except.ok.inj done
    rfl
  | cons change rest ih =>
    obtain ⟨next, applied, others⟩ := bind_ok_iff.mp (List.foldlM_cons.symm.trans done)
    obtain ⟨value, given, rfl⟩ := apply_eq_ok_iff.mp applied
    have later := ih others
    rw [Store.get_put] at later
    by_cases own : change.name = name
    · subst own
      rw [if_pos rfl] at later
      rw [changesOf_cons_self, valueAfter, List.foldlM_cons, given]
      exact later
    · rw [if_neg fun same => own same.symm] at later
      rw [changesOf_cons_of_ne own]
      exact later

/-- A name that no change is for keeps what it has. -/
theorem find?_after (untouched : changesOf name row = [])
    (done : row.foldlM (fun store change => change.apply store) store = .ok last) :
    last.find? name = store.find? name := by
  induction row generalizing store with
  | nil =>
    obtain rfl := Except.ok.inj done
    rfl
  | cons change rest ih =>
    obtain ⟨next, applied, others⟩ := bind_ok_iff.mp (List.foldlM_cons.symm.trans done)
    obtain ⟨value, given, rfl⟩ := apply_eq_ok_iff.mp applied
    have other : change.name ≠ name := by
      rintro rfl
      rw [changesOf_cons_self] at untouched
      contradiction
    rw [changesOf_cons_of_ne other] at untouched
    rw [ih untouched others, Table.find?_put, if_neg fun same => other same.symm]

/-- **New names go behind the old ones**, in the order of their first changes. -/
theorem names_after
    (done : row.foldlM (fun store change => change.apply store) store = .ok last) :
    last.names = Table.arrivals store.names (row.map Change.name) := by
  induction row generalizing store with
  | nil =>
    obtain rfl := Except.ok.inj done
    exact (Table.arrivals_nil _).symm
  | cons change rest ih =>
    obtain ⟨next, applied, others⟩ := bind_ok_iff.mp (List.foldlM_cons.symm.trans done)
    obtain ⟨value, given, rfl⟩ := apply_eq_ok_iff.mp applied
    rw [ih others, Table.names_put, List.map_cons, Table.arrivals_cons]

/-! ## 3. Independence -/

/-- What an effect that is not broken off does to a store. -/
structure Independent (store : Store) (effect : Text) (last : Store) : Prop where
  /-- A pattern reads a clause if the clause is written so. -/
  reads : ∀ clause ∈ clauses effect, ∀ (pattern : Pattern) (change : Change),
    pattern.read? clause = some change ↔ pattern.Reads clause change
  /-- No clause has two readings, neither under one pattern nor under two. -/
  unique : ∀ clause ∈ clauses effect, ∀ (pattern other : Pattern) (change change' : Change),
    pattern.Reads clause change → other.Reads clause change' → pattern = other ∧ change = change'
  /-- What a clause is read as does not depend on the order of the patterns. -/
  anyOrder : ∀ clause ∈ clauses effect, ∀ order : List Pattern, (∀ pattern, pattern ∈ order) →
    order.findSome? (·.read? clause) = Change.ofClause? clause
  /-- A name has what its own changes make of what it had. -/
  own : ∀ name, valueAfter (changesOf name (changes (clauses effect))) (store.get name) =
    .ok (last.get name)
  /-- A name without changes has what it had, or still nothing. -/
  untouched : ∀ name, changesOf name (changes (clauses effect)) = [] →
    last.find? name = store.find? name
  /-- The old names keep their places, and the new ones follow in order of their first changes. -/
  order : last.names =
    Table.arrivals store.names ((changes (clauses effect)).map Change.name)

/-- **An effect works on each name by itself.** -/
theorem independent_apply {store last : Store} {effect : Text}
    (done : apply effect store = (last, none)) : Independent store effect last := by
  have row := applyClauses_eq_done_iff.mp done
  exact
    { reads := fun _ _ _ _ => Pattern.read?_eq_some_iff
      unique := fun _ _ _ _ _ _ => Pattern.reads_unique
      anyOrder := fun clause _ _ all => Pattern.first_reading all clause
      own := fun name => value_after name row
      untouched := fun _ untouched => find?_after untouched row
      order := names_after row }

/-- The purse of a traveller: coins, and a lamp that is out. -/
def purse : Store := Store.ofDefs [⟨"gold", "10", []⟩, ⟨"lamp", "false", []⟩]

/-- What the traveller does: steps on one name around a change of another, and new names. -/
def errand : Text := "gold+5, torch+1, lamp=true, who knows?, gold-3, rope=2, torch=7"

/-- The purse after the errand. -/
def purseAfter : Store := (apply errand purse).1

/-- An errand with changes of four names, none of which is taken for another. -/
theorem independent_errand :
    purseAfter.names = ["gold", "lamp", "torch", "rope"] ∧
      apply errand purse = (purseAfter, none) ∧ Independent purse errand purseAfter := by
  have done : apply errand purse = (purseAfter, none) := by decide +kernel
  exact ⟨by decide +kernel, done, independent_apply done⟩

end Effect
end Gamebook

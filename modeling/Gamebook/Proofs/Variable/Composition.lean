/-
# How effects compose

An effect is a row of clauses, and clauses are carried out one after another; so two effects with a
comma between them are the one after the other.  This file proves that for all texts and all stores,
faults included (`apply_composes`).

* **Clauses.**  A clause that changes something is written in one way only: a name, a sign, and a
  truth value or digits (`Change.ofClause?_eq_some_iff`).
* **Cutting.**  Blank effects are cut like all others, since a blank clause is passed over
  (`apply_eq_applyClauses`); and clauses that are joined by commas are found again (`apply_join`).
* **Faults.**  A broken effect is a whole effect, which ends in front of a clause that fails.
-/
import Gamebook.Proofs.Text.Split
import Gamebook.Proofs.Variable.Effects

namespace Gamebook

open Text

/-! ## 1. How changes are written -/

/-- A text of characters that all satisfy something is made of them. -/
theorem Text.ofChars_toChars {p : Char → Bool} {t : Text}
    (all : ∀ letter ∈ t, letter.isChar p = true) :
    ofChars t.toChars = t ∧ ∀ c ∈ t.toChars, p c = true := by
  induction t with
  | nil => exact ⟨rfl, nofun⟩
  | cons letter rest ih =>
    obtain ⟨first, others⟩ := List.forall_mem_cons.mp all
    obtain ⟨same, chars⟩ := ih others
    cases letter with
    | half offset => contradiction
    | char c =>
      exact ⟨congrArg (Letter.char c :: ·) same, List.forall_mem_cons.mpr ⟨first, chars⟩⟩

namespace Change

variable {change : Change} {clause name rest : Text} {digits : List Char}

/-- How a change is written as a clause. -/
def spelling : Change → Text
  | .setBool name b => name ++ .char '=' :: (if b then "true" else "false" : Text)
  | .setNumber name digits => name ++ .char '=' :: ofChars digits
  | .increase name digits => name ++ .char '+' :: ofChars digits
  | .decrease name digits => name ++ .char '-' :: ofChars digits

/-- **The changes that can be written**: they have a name, and an amount of digits if they have
one. -/
structure Regular (change : Change) : Prop where
  named : change.name ≠ []
  name : ∀ letter ∈ change.name, letter.isChar isNameChar = true
  amount : ∀ digits, change.digits? = some digits →
    digits ≠ [] ∧ ∀ c ∈ digits, isAsciiDigit c = true

theorem amount?_eq_some_iff :
    amount? rest = some digits ↔
      digits ≠ [] ∧ (∀ c ∈ digits, isAsciiDigit c = true) ∧ rest = ofChars digits := by
  unfold amount?
  constructor
  · intro read
    split at read
    · rename_i known
      simp only [Bool.and_eq_true, Bool.not_eq_true', List.isEmpty_eq_false_iff,
        List.all_eq_true] at known
      obtain ⟨same, chars⟩ := ofChars_toChars known.2
      obtain rfl := Option.some.inj read
      refine ⟨?_, chars, same.symm⟩
      intro none
      rw [none] at same
      exact known.1 same.symm
    · contradiction
  · rintro ⟨nonempty, chars, rfl⟩
    have known : (!(ofChars digits).isEmpty &&
        (ofChars digits).all (Letter.isChar isAsciiDigit)) = true := by
      simpa [ofChars, Letter.isChar, nonempty] using chars
    rw [if_pos known, toChars_ofChars]

/-- A name ends at a sign. -/
theorem span_name {sign : Char} (chars : ∀ letter ∈ name, letter.isChar isNameChar = true)
    (ends : isNameChar sign = false) (rest : Text) :
    (name ++ .char sign :: rest).takeWhile (Letter.isChar isNameChar) = name ∧
      (name ++ .char sign :: rest).dropWhile (Letter.isChar isNameChar) = .char sign :: rest := by
  refine span_append chars ?_
  rintro letter ⟨⟩
  exact ends

/-- The digits of an amount are no truth value. -/
theorem ofChars_ne {word : Text} {c : Char} (starts : word.head? = some (.char c))
    (letter : isAsciiDigit c = false) (chars : ∀ c ∈ digits, isAsciiDigit c = true) :
    ofChars digits ≠ word := by
  rintro rfl
  cases digits with
  | nil => cases starts
  | cons first digits =>
    cases starts
    rw [chars c (List.mem_cons_self ..)] at letter
    contradiction

section

variable (named : name ≠ []) (chars : ∀ letter ∈ name, letter.isChar isNameChar = true)

include named chars

theorem ofClause?_equals (rest : Text) :
    ofClause? (name ++ .char '=' :: rest) =
      if rest = "true" then some (.setBool name true)
      else if rest = "false" then some (.setBool name false)
      else (amount? rest).map (.setNumber name) := by
  obtain ⟨taken, dropped⟩ := span_name chars (by decide : isNameChar '=' = false) rest
  simp [ofClause?, taken, dropped, named]

theorem ofClause?_plus (rest : Text) :
    ofClause? (name ++ .char '+' :: rest) = (amount? rest).map (.increase name) := by
  obtain ⟨taken, dropped⟩ := span_name chars (by decide : isNameChar '+' = false) rest
  simp [ofClause?, taken, dropped, named]

theorem ofClause?_minus (rest : Text) :
    ofClause? (name ++ .char '-' :: rest) = (amount? rest).map (.decrease name) := by
  obtain ⟨taken, dropped⟩ := span_name chars (by decide : isNameChar '-' = false) rest
  simp [ofClause?, taken, dropped, named]

end

theorem ofClause?_spelling (regular : change.Regular) :
    ofClause? change.spelling = some change := by
  obtain ⟨named, chars, amount⟩ := regular
  cases change with
  | setBool name b =>
    refine (ofClause?_equals named chars _).trans ?_
    cases b with
    | true => rfl
    | false =>
      rw [if_neg (by decide)]
      rfl
  | setNumber name digits =>
    obtain ⟨some, digit⟩ := amount digits rfl
    refine (ofClause?_equals named chars _).trans ?_
    rw [if_neg (ofChars_ne (c := 't') (by decide) (by decide) digit),
      if_neg (ofChars_ne (c := 'f') (by decide) (by decide) digit),
      amount?_eq_some_iff.mpr ⟨some, digit, rfl⟩]
    rfl
  | increase name digits =>
    obtain ⟨some, digit⟩ := amount digits rfl
    refine (ofClause?_plus named chars _).trans ?_
    rw [amount?_eq_some_iff.mpr ⟨some, digit, rfl⟩]
    rfl
  | decrease name digits =>
    obtain ⟨some, digit⟩ := amount digits rfl
    refine (ofClause?_minus named chars _).trans ?_
    rw [amount?_eq_some_iff.mpr ⟨some, digit, rfl⟩]
    rfl

theorem regular_of_ofClause? (reads : ofClause? clause = some change) :
    change.Regular ∧ clause = change.spelling := by
  have chars : ∀ letter ∈ clause.takeWhile (Letter.isChar isNameChar),
      letter.isChar isNameChar = true := fun _ mem => List.mem_takeWhile_imp mem
  have whole := (List.takeWhile_append_dropWhile (p := Letter.isChar isNameChar) (l := clause)).symm
  unfold ofClause? at reads
  simp only at reads
  generalize clause.takeWhile (Letter.isChar isNameChar) = name at reads chars whole
  generalize clause.dropWhile (Letter.isChar isNameChar) = rest at reads whole
  subst whole
  split at reads
  · contradiction
  rename_i named
  have named : name ≠ [] := by simpa using named
  -- The three signs with an amount behind them.
  have moved {rest : Text} {make : List Char → Change}
      (names : ∀ digits, (make digits).name = name ∧ (make digits).digits? = some digits)
      (reads : (amount? rest).map make = some change) :
      change.Regular ∧ ∃ digits, rest = ofChars digits ∧ change = make digits := by
    obtain ⟨digits, amount, rfl⟩ := Option.map_eq_some_iff.mp reads
    obtain ⟨some, digit, rfl⟩ := amount?_eq_some_iff.mp amount
    refine ⟨⟨(names digits).1 ▸ named, (names digits).1 ▸ chars, ?_⟩, digits, rfl, rfl⟩
    intro other same
    obtain rfl := Option.some.inj ((names digits).2.symm.trans same)
    exact ⟨some, digit⟩
  split at reads
  · split at reads
    · rename_i word
      obtain rfl := Option.some.inj reads
      exact ⟨⟨named, chars, nofun⟩, word ▸ rfl⟩
    · split at reads
      · rename_i word
        obtain rfl := Option.some.inj reads
        exact ⟨⟨named, chars, nofun⟩, word ▸ rfl⟩
      · obtain ⟨regular, digits, rfl, rfl⟩ := moved (fun _ => ⟨rfl, rfl⟩) reads
        exact ⟨regular, rfl⟩
  · obtain ⟨regular, digits, rfl, rfl⟩ := moved (fun _ => ⟨rfl, rfl⟩) reads
    exact ⟨regular, rfl⟩
  · obtain ⟨regular, digits, rfl, rfl⟩ := moved (fun _ => ⟨rfl, rfl⟩) reads
    exact ⟨regular, rfl⟩
  · contradiction

/-- **A clause is read as the change that is written so**, and as no other one. -/
theorem ofClause?_eq_some_iff :
    ofClause? clause = some change ↔ change.Regular ∧ clause = change.spelling := by
  constructor
  · exact regular_of_ofClause?
  · rintro ⟨regular, rfl⟩
    exact ofClause?_spelling regular

end Change

/-! ## 2. Effects as rows of clauses -/

namespace Effect

variable {store : Store} {clause effect : Text} {parts : List Text}

/-- What stands between the clauses of an effect. -/
def comma : Text := [.char ',']

/-- Goes on after something that may have been broken off. -/
def andThen (done : Store × Option Fault) (next : Store → Store × Option Fault) :
    Store × Option Fault :=
  match done with
  | (store, none) => next store
  | (store, some fault) => (store, some fault)

theorem applyClauses_concat (store : Store) (as bs : List Text) :
    applyClauses store (as ++ bs) = andThen (applyClauses store as) fun left =>
      applyClauses left bs := by
  induction as generalizing store with
  | nil => rfl
  | cons clause rest ih =>
    rw [List.cons_append]
    cases applied : applyClause store clause with
    | ok next =>
      rw [applyClauses_cons applied, applyClauses_cons applied]
      exact ih next
    | error fault =>
      rw [applyClauses_of_error applied, applyClauses_of_error applied]
      rfl

/-- Blank clauses are passed over. -/
theorem applyClauses_blank (store : Store) (rest : List Text) :
    applyClauses store ([] :: rest) = applyClauses store rest := by
  have passed : applyClause store [] = .ok store := rfl
  exact applyClauses_cons passed rest

theorem splitAt_of_blank (blank : isBlankText effect = true) :
    splitAt (.char ',') effect = [effect] := by
  have free : Letter.char ',' ∉ effect := by
    intro mem
    have blank := List.all_eq_true.mp blank _ mem
    exact absurd blank (by decide)
  have whole := splitAt_join (.char ',') (List.cons_ne_nil effect []) (by simpa using free)
  simpa using whole

/-- **An effect is carried out part by part**, a blank one as well as any other. -/
theorem apply_eq_applyClauses (effect : Text) (store : Store) :
    apply effect store = applyClauses store ((splitAt (.char ',') effect).map strip) := by
  unfold apply clauses
  split
  · rename_i blank
    rw [splitAt_of_blank blank, List.map_singleton, strip_of_blank blank, applyClauses_blank]
  · rfl

/-- The clauses of an effect have neither commas nor blanks around them. -/
theorem plain_of_mem_clauses (mem : clause ∈ clauses effect) :
    Letter.char ',' ∉ clause ∧ strip clause = clause := by
  unfold clauses at mem
  split at mem
  · contradiction
  · obtain ⟨part, cut, rfl⟩ := List.mem_map.mp mem
    refine ⟨?_, strip_strip part⟩
    intro comma
    exact not_mem_of_mem_splitAt cut ((strip_isInfix part).subset comma)

/-- **Clauses that are joined by commas are carried out one after another.** -/
theorem apply_join (free : ∀ part ∈ parts, Letter.char ',' ∉ part ∧ strip part = part)
    (store : Store) : apply (join comma parts) store = applyClauses store parts := by
  by_cases none : parts = []
  · subst none
    rfl
  · have bare : parts.map strip = parts := by
      rw [List.map_congr_left fun part mem => (free part mem).2]
      exact List.map_id' parts
    rw [apply_eq_applyClauses, join, comma,
      splitAt_join (.char ',') none fun part mem => (free part mem).1, bare]

/-! ## 3. Composition -/

/-- **Effects compose, also where they fail.**  An effect in front of a comma is carried out first,
and unless it was broken off, the one behind the comma is carried out on what it left.  An effect is
broken off if it comes to a clause that fails, which a change does only for the reasons that
`Change.Fails` lists; what is left then is the effect of the clauses before that one. -/
theorem apply_composes (store : Store) :
    (∀ a b : Text, apply (a ++ comma ++ b) store = andThen (apply a store) (apply b)) ∧
      ∀ (effect : Text) (left : Store) (fault : Fault),
        apply effect store = (left, some fault) ↔
          ∃ (before : List Text) (change : Change) (after : List Text),
            clauses effect = before ++ change.spelling :: after ∧ change.Regular ∧
              apply (join comma before) store = (left, none) ∧
                change.Fails (left.get change.name) fault := by
  constructor
  · intro a b
    have later : apply b = fun left => applyClauses left ((splitAt (.char ',') b).map strip) :=
      funext (apply_eq_applyClauses b)
    rw [apply_eq_applyClauses, apply_eq_applyClauses a, later, List.append_assoc]
    change applyClauses store ((splitAt (.char ',') (a ++ .char ',' :: b)).map strip) = _
    rw [splitAt_append, List.map_append, applyClauses_concat]
  · intro effect left fault
    have joined {before after : List Text} {clause : Text}
        (cut : clauses effect = before ++ clause :: after) :
        apply (join comma before) store = applyClauses store before := by
      apply apply_join
      intro part mem
      have known : part ∈ clauses effect := by
        rw [cut]
        exact List.mem_append_left _ mem
      exact plain_of_mem_clauses known
    rw [apply_eq_iff]
    constructor
    · rintro ⟨before, clause, after, change, cut, done, reads, fails⟩
      obtain ⟨regular, rfl⟩ := Change.ofClause?_eq_some_iff.mp reads
      exact ⟨before, change, after, cut, regular, (joined cut).trans done, fails⟩
    · rintro ⟨before, change, after, cut, regular, done, fails⟩
      exact ⟨before, change.spelling, after, change, cut, (joined cut).symm.trans done,
        Change.ofClause?_spelling regular, fails⟩

end Effect

end Gamebook

/-
# What play and the review make of the tokens of clauses

A clause with tokens is the comparison that these make up, and a clause that cannot be read holds in
every store and is reported (`tokenised_strip`).  Between the two there are clauses that are cut
short, as `x>=` without a value: no store satisfies them, so that a choice with such a condition is
never open, and the review does not report them (`cutShort_atLeast`).
-/
import Gamebook.Proofs.Story.Clauses
import Gamebook.Proofs.Variable.Coherence
import Gamebook.Proofs.Variable.Tokens

namespace Gamebook.Comparison

open Text

variable {clause : Text} {c : Comparison}

/-- **Nothing satisfies a comparison that is cut short.** -/
theorem holds_of_cutShort (short : CutShort clause c) (store : Store) : c.holds store = false := by
  rcases short with ⟨whole, shorter, -, value⟩
  have unread : c.operand = .unreadable :=
    operand_of_none (by rw [value]; decide +kernel) (by rw [value]; decide) (by rw [value]; decide)
  have ordered : c.relation ≠ .unequal := by
    intro unequal
    rw [unequal] at shorter
    cases whole
    all_goals contradiction
  unfold holds
  rw [unread, Bool.eq_false_iff, ne_eq, test_unreadable]
  exact ordered

theorem spoils_of_cutShort {condition : Text} (read : ofClause? clause = some c)
    (short : CutShort clause c) (mem : clause ∈ Condition.clauses condition) (store : Store) :
    Condition.holds condition store = false := by
  unfold Condition.holds
  rw [List.all_eq_false]
  refine ⟨clause, mem, ?_⟩
  unfold Condition.clauseHolds
  simp only [read, holds_of_cutShort short store]
  exact Bool.false_ne_true

/-- A clause that is read as a comparison. -/
def Readable (clause : Text) : Prop := ∃ c, Tokens clause c ∨ CutShort clause c

/-- **How a clause is tokenised**, and what that comes to in play and in the review. -/
structure Tokenised (clause : Text) : Prop where
  /-- A clause is the comparison that its tokens are; besides, there are clauses that are cut
  short. -/
  reads : ∀ c, ofClause? clause = some c ↔ Tokens clause c ∨ CutShort clause c
  /-- Without a value behind the relation there are no tokens. -/
  valueless : ∀ (name : Text) (r : Relation), Named clause name r.spelling →
    (∀ c, ¬ Tokens clause c) ∧
      ofClause? clause = r.cutShort?.map fun short => ⟨name, short, [.char '=']⟩
  /-- A clause that is cut short spoils the conditions it is in. -/
  spoils : ∀ c, CutShort clause c → ∀ condition, clause ∈ Condition.clauses condition →
    ∀ store, Condition.holds condition store = false
  /-- A clause that is not read holds in every store. -/
  holds : ¬ Readable clause → ∀ condition, clause ∈ Condition.clauses condition →
    ∀ store, Condition.holds clause store = true
  /-- And the condition that it is in says the same without it. -/
  without : ¬ Readable clause → ∀ condition before part after,
    conjuncts condition = before ++ part :: after → strip part = clause →
      ∀ store, Condition.holds (join conjunction (before ++ after)) store =
        Condition.holds condition store
  /-- The review reports exactly the clauses that are not read. -/
  reported : ∀ (story : Story) (config : Config),
    (∀ line ∈ story.lines, (Number.int line.id).isOverlong = false) →
      ∃ problems, story.review config = .ok problems ∧ ∀ choice ∈ story.choices,
        clause ∈ Condition.clauses choice.condition →
          (.unreadableCondition choice clause ∈ problems ↔ ¬ Readable clause)

theorem end_strip {part : Text} {letter : Letter} (last : letter ∈ (strip part).getLast?) :
    letter.isChar isAsciiBlank = false := by
  have solid := last_stripWhile last
  cases letter with
  | char c => exact isAsciiBlank_of_not_blank solid
  | half offset => rfl

theorem review_of_short {story : Story} (config : Config)
    (short : ∀ line ∈ story.lines, (Number.int line.id).isOverlong = false) :
    story.review config = .ok (story.problems config) := by
  unfold Story.review
  rw [if_neg]
  intro long
  rcases List.any_eq_true.mp long with ⟨line, mem, long⟩
  rw [short line mem] at long
  contradiction

/-- **The tokens of clauses**, of all texts. -/
theorem tokenised_strip (part : Text) : Tokenised (strip part) := by
  have reads (c : Comparison) :
      ofClause? (strip part) = some c ↔ Tokens (strip part) c ∨ CutShort (strip part) c :=
    ofClause?_iff_tokens fun _ => end_strip
  have unread : ofClause? (strip part) = none ↔ ¬ Readable (strip part) := by
    rw [Option.eq_none_iff_forall_ne_some]
    unfold Readable
    simp only [ne_eq, reads, not_exists]
  constructor
  case reads => exact reads
  case valueless =>
    intro name r named
    exact ⟨fun _ => not_tokens_of_valueless named, ofClause?_of_valueless named⟩
  case spoils =>
    intro c short condition mem store
    exact spoils_of_cutShort ((reads c).mpr (.inr short)) short mem store
  case holds =>
    intro other condition mem store
    rw [Condition.holds_clause mem]
    exact Condition.clauseHolds_of_none (unread.mpr other) store
  case without =>
    intro other condition before between after cut same store
    refine Condition.holds_without cut ?_ store
    rw [same]
    exact unread.mpr other
  case reported =>
    intro story config short
    refine ⟨_, review_of_short config short, ?_⟩
    intro choice known mem
    rw [Story.unreadableCondition_mem_iff, unread]
    simp [known, mem]

/-- A choice whose condition lacks a value. -/
def entering : Choice :=
  { group := "door", text := "Enter", condition := "x>=", destination := "hall" }

/-- A story with a single choice, which is never open. -/
def lockedHall : Story where
  scenes := [{ id := "hall", name := "Hall" }]
  lines := [{ id := 1, scene := "hall", speaker := "→CHOICE:door" }]
  choices := [entering]
  variableDefs := [{ name := "x" }]

/-- **A clause without a value that is read nevertheless.** It has no tokens, but holds in no store,
and the review has nothing to say about it. -/
theorem cutShort_atLeast :
    strip "x>=" = "x>=" ∧ (∀ c, ¬ Tokens "x>=" c) ∧
      ofClause? "x>=" = some ⟨"x", .above, "="⟩ ∧
        (∀ store, Condition.holds entering.condition store = false) ∧
          lockedHall.review {} = .ok [] := by
  have named : Named "x>=" "x" Relation.atLeast.spelling :=
    ⟨by decide, by decide, [], nofun, rfl⟩
  have read : ofClause? "x>=" = some ⟨"x", .above, "="⟩ := ofClause?_of_valueless named
  refine ⟨by decide, fun c => not_tokens_of_valueless named, read, ?_, by decide +kernel⟩
  intro store
  exact spoils_of_cutShort read ⟨.atLeast, rfl, named, rfl⟩ (by decide) store

end Gamebook.Comparison

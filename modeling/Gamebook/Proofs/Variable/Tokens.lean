/-
# The tokens of condition clauses

A clause of a condition is a comparison if a name begins it, a relation stands behind the name and a
value behind the relation, with or without blanks between them.  Where two relations stand at the
same place, the longer one counts, so that `x>=1` says at least and not more than `=1`.  These are
the tokens of a clause (`Comparison.Tokens`).

`Comparison.ofClause?` finds them, with one exception (`ofClause?_iff_tokens`): it tries the shorter
relations too where the longer ones have no value.  So at the end of a clause the first half of `>=`
or `<=` is taken for all of the relation, and the second half for its value (`Comparison.CutShort`).
Behind `==` and `!=`, which have no relation as their first half, nothing is found.
-/
import Gamebook.Proofs.Text.Split
import Gamebook.Variable.Condition

namespace Gamebook

open Text

/-! ## 1. The longest relation -/

namespace Relation

variable {r other : Relation} {text rest : Text}

/-- How a relation is written. -/
def spelling : Relation → Text
  | .atLeast => [.char '>', .char '=']
  | .atMost => [.char '<', .char '=']
  | .equal => [.char '=', .char '=']
  | .unequal => [.char '!', .char '=']
  | .above => [.char '>']
  | .below => [.char '<']

/-- What is left of a relation without its second character, where that is a relation. -/
def cutShort? : Relation → Option Relation
  | .atLeast => some .above
  | .atMost => some .below
  | .equal | .unequal | .above | .below => none

/-- A relation is the longest one at the start of a text. -/
structure Longest (text : Text) (r : Relation) : Prop where
  starts : r.spelling <+: text
  longest : ∀ other : Relation, other.spelling <+: text →
    other.spelling.length ≤ r.spelling.length

theorem length_spelling (r : Relation) : r.spelling.length = 1 ∨ r.spelling.length = 2 := by
  cases r <;> simp [spelling]

theorem double?_eq_some_iff :
    double? text = some (r, rest) ↔ r.spelling.length = 2 ∧ text = r.spelling ++ rest := by
  constructor
  · intro read
    unfold double? at read
    split at read
    all_goals
      cases read
    all_goals exact ⟨rfl, rfl⟩
  · rintro ⟨double, rfl⟩
    cases r
    all_goals first | rfl | contradiction

theorem single?_eq_some_iff :
    single? text = some (r, rest) ↔ r.spelling.length = 1 ∧ text = r.spelling ++ rest := by
  constructor
  · intro read
    unfold single? at read
    split at read
    all_goals
      cases read
    all_goals exact ⟨rfl, rfl⟩
  · rintro ⟨single, rfl⟩
    cases r
    all_goals first | rfl | contradiction

theorem double?_append (double : r.spelling.length = 2) (rest : Text) :
    double? (r.spelling ++ rest) = some (r, rest) := double?_eq_some_iff.mpr ⟨double, rfl⟩

/-- A relation of two characters is the longest one. -/
theorem longest_of_double (double : r.spelling.length = 2) : r.Longest (r.spelling ++ rest) where
  starts := List.prefix_append ..
  longest := by
    intro other _
    rcases length_spelling other with single | double'
    · omega
    · omega

/-- A relation of one character that stands where a longer one stands is its first character. -/
theorem cutShort_of_starts {whole : Relation} {more : Text} (double : whole.spelling.length = 2)
    (single : r.spelling.length = 1) (same : whole.spelling ++ more = r.spelling ++ rest) :
    whole.cutShort? = some r ∧ rest = .char '=' :: more := by
  cases whole
  all_goals
    cases r
    all_goals try contradiction
    all_goals cases same
  -- Only two pairs of relations begin alike.
  case atLeast.above.refl => exact ⟨rfl, rfl⟩
  case atMost.below.refl => exact ⟨rfl, rfl⟩

theorem ne_nil_of_starts (starts : r.spelling <+: text) : text ≠ [] := by
  rintro rfl
  have empty := List.prefix_nil.mp starts
  cases r
  all_goals contradiction

/-- What begins with a relation begins neither with a blank nor with a character of a name. -/
theorem head_of_starts {letter : Letter} (starts : r.spelling <+: text)
    (first : letter ∈ text.head?) :
    letter.isChar isNameChar = false ∧ letter.isChar isAsciiBlank = false := by
  rcases starts with ⟨rest, rfl⟩
  cases r
  all_goals
    cases first
    decide

end Relation

/-! ## 2. The parts of a clause -/

namespace Comparison

variable {clause name standing literal rest : Text} {r : Relation} {c : Comparison}

/-- A clause begins with a name, and behind that and some blanks, or none, it goes on with
`standing`. -/
structure Named (clause name standing : Text) : Prop where
  nonempty : name ≠ []
  chars : ∀ letter ∈ name, letter.isChar isNameChar = true
  parted : ∃ gap : Text, (∀ letter ∈ gap, letter.isChar isAsciiBlank = true) ∧
    clause = name ++ (gap ++ standing)

/-- A value stands behind a relation: all that follows the blanks, on one line. -/
structure Valued (standing : Text) (r : Relation) (literal : Text) : Prop where
  nonempty : literal ≠ []
  solid : ∀ letter ∈ literal.head?, letter.isChar isAsciiBlank = false
  line : Letter.char '\n' ∉ literal
  parted : ∃ gap : Text, (∀ letter ∈ gap, letter.isChar isAsciiBlank = true) ∧
    standing = r.spelling ++ (gap ++ literal)

/-- **The tokens of a clause**: a name, the longest relation behind it, and a value. -/
def Tokens (clause : Text) (c : Comparison) : Prop :=
  ∃ standing, Named clause c.name standing ∧ c.relation.Longest standing ∧
    Valued standing c.relation c.literal

/-- A clause ends with a relation of two characters, which is taken for a relation and a value of
one character each. -/
def CutShort (clause : Text) (c : Comparison) : Prop :=
  ∃ whole : Relation, whole.cutShort? = some c.relation ∧ Named clause c.name whole.spelling ∧
    c.literal = [.char '=']

/-- The relation and the value that are read behind the name of a clause. -/
def relate? (standing : Text) : Option (Relation × Text) :=
  (tail? (Relation.double? standing)).or (tail? (Relation.single? standing))

theorem literal?_eq_some_iff :
    literal? rest = some literal ↔ Valued (r.spelling ++ rest) r literal := by
  unfold literal?
  simp only
  constructor
  · intro read
    split at read
    · contradiction
    rename_i kept
    simp only [Bool.or_eq_true, List.isEmpty_iff, List.contains_iff_mem, not_or] at kept
    cases read
    refine ⟨kept.1, ?_, kept.2, rest.takeWhile (Letter.isChar isAsciiBlank), ?_, ?_⟩
    · intro letter first
      have stopped := List.head?_dropWhile_not (Letter.isChar isAsciiBlank) rest
      rw [first] at stopped
      exact stopped
    · intro letter mem
      exact List.mem_takeWhile_imp mem
    · rw [List.takeWhile_append_dropWhile]
  · rintro ⟨nonempty, solid, line, gap, blanks, parted⟩
    rw [List.append_cancel_left_eq] at parted
    rw [parted, (span_append blanks solid).2]
    simp [nonempty, line]

/-- Without a value and without a line end there are only blanks. -/
theorem blank_of_literal? (none : literal? rest = none) (line : Letter.char '\n' ∉ rest) :
    ∀ letter ∈ rest, letter.isChar isAsciiBlank = true := by
  unfold literal? at none
  simp only [ite_eq_left_iff, reduceCtorEq, imp_false, not_not, Bool.or_eq_true, List.isEmpty_iff,
    List.contains_iff_mem] at none
  rcases none with empty | mem
  · exact List.dropWhile_eq_nil_iff.mp empty
  · exact absurd ((List.dropWhile_suffix _).subset mem) line

theorem tail?_eq_some_iff {start : Option (Relation × Text)} :
    tail? start = some (r, literal) ↔
      ∃ rest, start = some (r, rest) ∧ literal? rest = some literal := by
  unfold tail?
  rw [Option.bind_eq_some_iff]
  constructor
  · rintro ⟨⟨relation, rest⟩, begins, read⟩
    rcases Option.map_eq_some_iff.mp read with ⟨other, valued, same⟩
    cases same
    exact ⟨rest, begins, valued⟩
  · rintro ⟨rest, begins, valued⟩
    exact ⟨(r, rest), begins, Option.map_eq_some_iff.mpr ⟨literal, valued, rfl⟩⟩

/-! ## 3. What is read -/

theorem isChar_nameChar_of_blank {letter : Letter} (blank : letter.isChar isAsciiBlank = true) :
    letter.isChar isNameChar = false := by
  cases letter with
  | char c =>
    rw [Bool.eq_false_iff]
    intro char
    have solid := isAsciiBlank_of_not_blank (isBlank_of_nameChar char)
    exact absurd blank (Bool.eq_false_iff.mp solid)
  | half offset => rfl

/-- A value that begins with the second character of a relation, where no value stands behind the
relation, is that character alone. -/
theorem value_of_cutShort {more : Text} (missing : literal? more = none)
    (valued : literal? (.char '=' :: more) = some literal)
    (ends : ∀ letter ∈ more.getLast?, letter.isChar isAsciiBlank = false) :
    more = [] ∧ literal = [.char '='] := by
  have kept : ((.char '=' :: more : Text).dropWhile (Letter.isChar isAsciiBlank)) =
      .char '=' :: more := List.dropWhile_cons_of_neg (by decide)
  unfold literal? at valued
  simp only [kept] at valued
  split at valued
  · contradiction
  rename_i line
  cases valued
  simp only [List.isEmpty_cons, Bool.false_or, List.contains_iff_mem, List.mem_cons, not_or] at line
  have blanks := blank_of_literal? missing line.2
  have empty : more = [] := by
    by_contra nonempty
    have blank := blanks _ (List.getLast_mem nonempty)
    rw [ends _ (List.getLast_mem_getLast? nonempty)] at blank
    contradiction
  exact ⟨empty, by rw [empty]⟩

/-- A relation of one character is read where it is the longest one, or where a longer one ends the
text and so has no value. -/
theorem longest_or_cutShort (single : r.spelling.length = 1)
    (unvalued : tail? (Relation.double? (r.spelling ++ rest)) = none)
    (valued : literal? rest = some literal)
    (ends : ∀ letter ∈ (r.spelling ++ rest).getLast?, letter.isChar isAsciiBlank = false) :
    r.Longest (r.spelling ++ rest) ∨
      ∃ whole : Relation, whole.cutShort? = some r ∧ r.spelling ++ rest = whole.spelling ∧
        literal = [.char '='] := by
  by_cases longer : ∃ whole : Relation, whole.spelling.length = 2 ∧
      whole.spelling <+: r.spelling ++ rest
  · rcases longer with ⟨whole, double, more, same⟩
    rcases Relation.cutShort_of_starts double single same with ⟨shorter, rfl⟩
    -- What stands behind the longer relation is no value, but the value of the shorter one goes on
    -- with it: it can only be blanks, and the text does not end with a blank.
    have missing : literal? more = none := by
      rw [← same, Relation.double?_append double] at unvalued
      simpa [tail?] using unvalued
    have behind : ∀ letter ∈ more.getLast?, letter.isChar isAsciiBlank = false := by
      intro letter last
      refine ends letter ?_
      rw [Option.mem_def] at last ⊢
      simp [List.getLast?_append, List.getLast?_cons, last]
    rcases value_of_cutShort missing valued behind with ⟨rfl, rfl⟩
    exact .inr ⟨whole, shorter, by rw [← same, List.append_nil], rfl⟩
  · refine .inl ⟨List.prefix_append .., ?_⟩
    intro other starts
    rcases other.length_spelling with short | double
    · omega
    · exact absurd ⟨other, double, starts⟩ longer

/-- Where a relation of one character is the longest one, none of two is read. -/
theorem double?_of_longest (longest : r.Longest standing) (single : r.spelling.length = 1) :
    Relation.double? standing = none := by
  cases begins : Relation.double? standing with
  | none => rfl
  | some read =>
    rcases Relation.double?_eq_some_iff.mp begins with ⟨double, same⟩
    have shorter := longest.longest read.1 ⟨read.2, same.symm⟩
    omega

/-- **What is read behind a name**, where that does not end with a blank: the longest relation with
its value, or a relation that is cut short. -/
theorem relate?_eq_some_iff
    (ends : ∀ letter ∈ standing.getLast?, letter.isChar isAsciiBlank = false) :
    relate? standing = some (r, literal) ↔
      (r.Longest standing ∧ Valued standing r literal) ∨
        ∃ whole : Relation, whole.cutShort? = some r ∧ standing = whole.spelling ∧
          literal = [.char '='] := by
  unfold relate?
  rw [Option.or_eq_some_iff, tail?_eq_some_iff, tail?_eq_some_iff]
  constructor
  · rintro (⟨rest, begins, valued⟩ | ⟨unvalued, rest, begins, valued⟩)
    · rcases Relation.double?_eq_some_iff.mp begins with ⟨double, rfl⟩
      exact .inl ⟨Relation.longest_of_double double, literal?_eq_some_iff.mp valued⟩
    · rcases Relation.single?_eq_some_iff.mp begins with ⟨single, rfl⟩
      rcases longest_or_cutShort single unvalued valued ends with longest | short
      · exact .inl ⟨longest, literal?_eq_some_iff.mp valued⟩
      · exact .inr short
  · rintro (⟨longest, valued⟩ | ⟨whole, shorter, rfl, rfl⟩)
    · rcases longest.starts with ⟨rest, rfl⟩
      have value := literal?_eq_some_iff.mpr valued
      rcases r.length_spelling with single | double
      · refine .inr ⟨?_, rest, Relation.single?_eq_some_iff.mpr ⟨single, rfl⟩, value⟩
        rw [double?_of_longest longest single]
        rfl
      · exact .inl ⟨rest, Relation.double?_append double rest, value⟩
    · cases whole
      all_goals
        cases shorter
      all_goals exact .inr ⟨rfl, [.char '='], rfl, rfl⟩

/-- A clause with a relation ends as what stands behind its name does. -/
theorem Named.ends (named : Named clause name standing) (starts : r.spelling <+: standing) :
    clause.getLast? = standing.getLast? := by
  rcases named.parted with ⟨gap, -, rfl⟩
  rw [← List.append_assoc, List.getLast?_append_of_ne_nil _ (Relation.ne_nil_of_starts starts)]

/-- The name is what is taken for it. -/
theorem Named.cut (named : Named clause name standing) (starts : r.spelling <+: standing) :
    clause.takeWhile (Letter.isChar isNameChar) = name ∧
      (clause.dropWhile (Letter.isChar isNameChar)).dropWhile (Letter.isChar isAsciiBlank) =
        standing := by
  rcases named with ⟨-, chars, gap, blanks, rfl⟩
  have stop : ∀ letter ∈ (gap ++ standing).head?, letter.isChar isNameChar = false := by
    intro letter first
    cases gap with
    | nil => exact (Relation.head_of_starts starts first).1
    | cons blank gap =>
      obtain rfl := Option.some.inj first
      exact isChar_nameChar_of_blank (blanks blank (List.mem_cons_self ..))
  rcases span_append chars stop with ⟨taken, dropped⟩
  rw [dropped]
  exact ⟨taken, (span_append blanks fun _ first => (Relation.head_of_starts starts first).2).2⟩

theorem named_of_cut (nonempty : clause.takeWhile (Letter.isChar isNameChar) ≠ []) :
    Named clause (clause.takeWhile (Letter.isChar isNameChar))
      ((clause.dropWhile (Letter.isChar isNameChar)).dropWhile (Letter.isChar isAsciiBlank)) where
  nonempty := nonempty
  chars := by
    intro letter mem
    exact List.mem_takeWhile_imp mem
  parted := by
    refine ⟨(clause.dropWhile (Letter.isChar isNameChar)).takeWhile (Letter.isChar isAsciiBlank),
      fun _ mem => List.mem_takeWhile_imp mem, ?_⟩
    rw [List.takeWhile_append_dropWhile, List.takeWhile_append_dropWhile]

theorem starts_of_relate? (read : relate? standing = some (r, literal)) :
    r.spelling <+: standing := by
  unfold relate? at read
  rw [Option.or_eq_some_iff, tail?_eq_some_iff, tail?_eq_some_iff] at read
  rcases read with ⟨rest, begins, -⟩ | ⟨-, rest, begins, -⟩
  · exact ⟨rest, (Relation.double?_eq_some_iff.mp begins).2.symm⟩
  · exact ⟨rest, (Relation.single?_eq_some_iff.mp begins).2.symm⟩

/-- A clause is read by its name and by what stands behind it. -/
theorem ofClause?_of_named (named : Named clause name standing) (starts : r.spelling <+: standing) :
    ofClause? clause = (relate? standing).map fun (relation, literal) =>
      ⟨name, relation, literal⟩ := by
  rcases named.cut starts with ⟨taken, dropped⟩
  unfold ofClause?
  simp only [taken, dropped]
  rw [if_neg (by simpa using named.nonempty)]
  rfl

theorem ofClause?_iff_relate? :
    ofClause? clause = some c ↔
      ∃ standing, Named clause c.name standing ∧
        relate? standing = some (c.relation, c.literal) := by
  constructor
  · intro read
    unfold ofClause? at read
    simp only at read
    split at read
    · contradiction
    rename_i nonempty
    rcases Option.map_eq_some_iff.mp read with ⟨⟨relation, literal⟩, related, rfl⟩
    exact ⟨_, named_of_cut (by simpa using nonempty), related⟩
  · rintro ⟨standing, named, related⟩
    rw [ofClause?_of_named named (starts_of_relate? related), related]
    rfl

/-- **What a clause is read as**, unless it ends with a blank. -/
theorem ofClause?_iff_tokens
    (ends : ∀ letter ∈ clause.getLast?, letter.isChar isAsciiBlank = false) :
    ofClause? clause = some c ↔ Tokens clause c ∨ CutShort clause c := by
  rw [ofClause?_iff_relate?]
  constructor
  · rintro ⟨standing, named, related⟩
    rw [named.ends (starts_of_relate? related)] at ends
    rcases (relate?_eq_some_iff ends).mp related with ⟨longest, valued⟩ |
      ⟨whole, shorter, rfl, value⟩
    · exact .inl ⟨standing, named, longest, valued⟩
    · exact .inr ⟨whole, shorter, named, value⟩
  · rintro (⟨standing, named, longest, valued⟩ | ⟨whole, shorter, named, value⟩)
    · rw [named.ends longest.starts] at ends
      exact ⟨standing, named, (relate?_eq_some_iff ends).mpr (.inl ⟨longest, valued⟩)⟩
    · rw [named.ends List.prefix_rfl] at ends
      exact ⟨whole.spelling, named,
        (relate?_eq_some_iff ends).mpr (.inr ⟨whole, shorter, rfl, value⟩)⟩

example : ofClause? "x >= 10" = some ⟨"x", .atLeast, "10"⟩ := by decide

/-! ## 4. Clauses without a value -/

/-- **A clause that ends with a relation has no tokens.** -/
theorem not_tokens_of_valueless (named : Named clause name r.spelling) : ¬ Tokens clause c := by
  rintro ⟨standing, named', longest, valued⟩
  have same : r.spelling = standing :=
    (named.cut List.prefix_rfl).2.symm.trans (named'.cut longest.starts).2
  have shorter := longest.longest r (same ▸ List.prefix_rfl)
  rcases valued.parted with ⟨gap, -, parted⟩
  have positive := List.length_pos_of_ne_nil valued.nonempty
  have length := congrArg List.length (same.trans parted)
  simp only [List.length_append] at length
  omega

/-- It is read as nothing, or as a comparison that is cut short. -/
theorem ofClause?_of_valueless (named : Named clause name r.spelling) :
    ofClause? clause = r.cutShort?.map fun short => ⟨name, short, [.char '=']⟩ := by
  have related : relate? r.spelling = r.cutShort?.map fun short => (short, [.char '=']) := by
    cases r
    all_goals rfl
  rw [ofClause?_of_named named List.prefix_rfl, related, Option.map_map]
  rfl

end Comparison
end Gamebook

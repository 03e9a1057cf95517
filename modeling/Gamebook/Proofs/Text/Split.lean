/-
# What cutting and stripping keep

Effects are cut at commas, conditions at `&&`, and every part is stripped.  This file says when a
text can be put together from parts and is cut into the same parts again.

* At a single separator that is always so, as long as no part holds it (`splitAt_append`,
  `splitAt_join`).
* At `&&` it is so unless a part that is not the last one ends in `&`: in `a&&&b` the first two
  count (`conjuncts_append`, `conjuncts_join`).  The parts that a text is cut into are never of that
  kind (`closed_of_mem_dropLast`).
-/
import Gamebook.Text.Digit
import Gamebook.Text.Split
import Mathlib.Data.List.DropRight

namespace Gamebook.Text

/-! ## 1. Stripping -/

section

variable {α : Type} {p : α → Bool} {as : List α}

theorem stripWhile_eq (p : α → Bool) (as : List α) :
    stripWhile p as = (as.dropWhile p).rdropWhile p := rfl

theorem stripWhile_isInfix : stripWhile p as <:+: as := by
  rw [stripWhile_eq]
  have prefixed : (as.dropWhile p).rdropWhile p <+: as.dropWhile p := List.rdropWhile_prefix ..
  exact prefixed.isInfix.trans (List.dropWhile_suffix p).isInfix

theorem dropWhile_stripWhile : (stripWhile p as).dropWhile p = stripWhile p as := by
  rw [stripWhile_eq, List.dropWhile_eq_self_iff]
  intro nonempty
  have prefixed : (as.dropWhile p).rdropWhile p <+: as.dropWhile p := List.rdropWhile_prefix ..
  rw [List.IsPrefix.getElem prefixed nonempty]
  exact List.dropWhile_eq_self_iff.mp (List.dropWhile_idempotent p as)
    (Nat.lt_of_lt_of_le nonempty prefixed.length_le)

/-- What is stripped does not begin with what is dropped. -/
theorem head_stripWhile {a : α} (first : a ∈ (stripWhile p as).head?) : p a = false := by
  have kept := List.head?_dropWhile_not p (stripWhile p as)
  rw [dropWhile_stripWhile, first] at kept
  exact kept

/-- Nor does it end with it. -/
theorem last_stripWhile {a : α} (last : a ∈ (stripWhile p as).getLast?) : p a = false := by
  rw [stripWhile_eq] at last
  rcases List.mem_getLast?_eq_getLast last with ⟨nonempty, rfl⟩
  simpa using List.rdropWhile_last_not p (as.dropWhile p) nonempty

theorem dropWhile_of_head (stop : ∀ a ∈ as.head?, p a = false) : as.dropWhile p = as := by
  cases as with
  | nil => rfl
  | cons a rest =>
    have ends : ¬ p a = true := by simpa using stop a rfl
    exact List.dropWhile_cons_of_neg ends

/-- A run of what satisfies `p` ends at the first element that does not. -/
theorem span_append {rest : List α} (run : ∀ a ∈ as, p a = true)
    (stop : ∀ a ∈ rest.head?, p a = false) :
    (as ++ rest).takeWhile p = as ∧ (as ++ rest).dropWhile p = rest := by
  have dropped : (as ++ rest).dropWhile p = rest := by
    rw [List.dropWhile_append_of_pos run, dropWhile_of_head stop]
  have whole := List.takeWhile_append_dropWhile (p := p) (l := as ++ rest)
  rw [dropped] at whole
  exact ⟨List.append_cancel_right whole, dropped⟩

/-- What neither begins nor ends with what is dropped is stripped of nothing. -/
theorem stripWhile_of_ends (first : ∀ a ∈ as.head?, p a = false)
    (last : ∀ a ∈ as.getLast?, p a = false) : stripWhile p as = as := by
  rw [stripWhile_eq, dropWhile_of_head first, List.rdropWhile_eq_self_iff]
  intro nonempty
  have kept := last _ (List.getLast_mem_getLast? nonempty)
  simpa using kept

/-- Stripping twice is stripping once. -/
theorem stripWhile_stripWhile : stripWhile p (stripWhile p as) = stripWhile p as :=
  stripWhile_of_ends (fun _ => head_stripWhile) (fun _ => last_stripWhile)

/-- Stripping takes something from both ends, and only what is to be dropped. -/
theorem exists_around (p : α → Bool) (as : List α) :
    ∃ before after, as = before ++ (stripWhile p as ++ after) ∧
      (∀ a ∈ before, p a = true) ∧ ∀ a ∈ after, p a = true := by
  refine ⟨as.takeWhile p, (as.dropWhile p).rtakeWhile p, ?_, fun a => List.mem_takeWhile_imp,
    fun a => List.mem_rtakeWhile_imp⟩
  rw [stripWhile_eq, List.rdropWhile_append_rtakeWhile, List.takeWhile_append_dropWhile]

theorem stripWhile_of_all (all : as.all p = true) : stripWhile p as = [] := by
  rw [stripWhile_eq, List.dropWhile_eq_nil_iff.mpr (List.all_eq_true.mp all)]
  rfl

end

/-- White space in the narrow sense is blank. -/
theorem isBlank_of_asciiBlank {c : Char} (blank : isAsciiBlank c = true) : isBlank c = true := by
  simp only [isAsciiBlank, Bool.or_eq_true, beq_iff_eq, Bool.and_eq_true,
    decide_eq_true_eq] at blank
  rcases blank with rfl | range
  · decide
  · simp [isBlank, CodeRange.covers, blankTable]
    omega

theorem isAsciiBlank_of_not_blank {c : Char} (solid : isBlank c = false) :
    isAsciiBlank c = false := by
  rw [Bool.eq_false_iff]
  intro blank
  exact absurd (isBlank_of_asciiBlank blank) (Bool.eq_false_iff.mp solid)

/-- No character of a name is blank. -/
theorem isBlank_of_nameChar {c : Char} (char : isNameChar c = true) : isBlank c = false := by
  change (decide (c.val ≥ 'A'.val ∧ c.val ≤ 'Z'.val) ||
    decide (c.val ≥ 'a'.val) && decide (c.val ≤ 'z'.val) ||
    decide (c.val ≥ '0'.val) && decide (c.val ≤ '9'.val) || c == '_') = true at char
  simp only [Bool.or_eq_true, Bool.and_eq_true, decide_eq_true_eq, beq_iff_eq,
    UInt32.le_iff_toNat_le, ge_iff_le] at char
  change (((65 ≤ c.toNat ∧ c.toNat ≤ 90) ∨ (97 ≤ c.toNat ∧ c.toNat ≤ 122)) ∨
    (48 ≤ c.toNat ∧ c.toNat ≤ 57)) ∨ c = '_' at char
  rcases char with code | rfl
  · simp [isBlank, CodeRange.covers, blankTable]
    omega
  · decide

theorem isNameChar_of_digit {c : Char} (digit : isAsciiDigit c = true) : isNameChar c = true := by
  have isDigit : c.isDigit = true := digit
  simp [isNameChar, Char.isAlphanum, isDigit]

theorem strip_isInfix (text : Text) : strip text <:+: text := stripWhile_isInfix

theorem strip_strip (text : Text) : strip (strip text) = strip text := stripWhile_stripWhile

theorem strip_of_blank {text : Text} (blank : isBlankText text = true) : strip text = [] :=
  stripWhile_of_all blank

/-! ## 2. One separator -/

section

variable {α : Type}

theorem consFirst_eq (a : α) {parts : List (List α)} (nonempty : parts ≠ []) :
    consFirst a parts = parts.modifyHead (a :: ·) := by
  cases parts with
  | nil => exact absurd rfl nonempty
  | cons part parts => rfl

variable [DecidableEq α] (separator : α)

/-- Cutting is what the library calls splitting. -/
theorem splitAt_eq_splitOn (as : List α) : splitAt separator as = as.splitOn separator := by
  induction as with
  | nil => rfl
  | cons a rest ih =>
    rw [List.splitOn_eq_splitOnP, List.splitOnP_cons_eq_if_modifyHead, splitAt, ih,
      List.splitOn_eq_splitOnP]
    by_cases same : a = separator
    · simp [same]
    · simp [same, consFirst_eq a (List.splitOnP_ne_nil _ rest)]

/-- **A separator between two lists parts them.** -/
theorem splitAt_append (as bs : List α) :
    splitAt separator (as ++ separator :: bs) = splitAt separator as ++ splitAt separator bs := by
  simp only [splitAt_eq_splitOn, List.splitOn_eq_splitOnP]
  exact List.splitOnP_append_cons as bs (beq_self_eq_true separator)

/-- Parts without the separator are found again. -/
theorem splitAt_join {parts : List (List α)} (nonempty : parts ≠ [])
    (free : ∀ part ∈ parts, separator ∉ part) :
    splitAt separator ([separator].intercalate parts) = parts := by
  rw [splitAt_eq_splitOn]
  exact List.splitOn_intercalate separator free nonempty

variable {separator}

theorem not_mem_of_mem_splitAt {as part : List α} (mem : part ∈ splitAt separator as) :
    separator ∉ part := by
  induction as generalizing part with
  | nil =>
    rw [splitAt, List.mem_singleton] at mem
    simp [mem]
  | cons a rest ih =>
    unfold splitAt at mem
    split at mem
    · rcases List.mem_cons.mp mem with rfl | later
      · simp
      · exact ih later
    · rename_i other
      cases parts : splitAt separator rest with
      | nil =>
        rw [parts, consFirst, List.mem_singleton] at mem
        simp [mem, Ne.symm other]
      | cons first others =>
        rw [parts] at mem ih
        rcases List.mem_cons.mp mem with rfl | later
        · rw [List.mem_cons, not_or]
          exact ⟨Ne.symm other, ih (List.mem_cons_self ..)⟩
        · exact ih (List.mem_cons_of_mem _ later)

end

/-! ## 3. The conjunction of conditions -/

/-- What stands between the parts of a condition. -/
def conjunction : Text := [.char '&', .char '&']

/-- Whether a text can stand in front of a conjunction: it does not end in half of one. -/
def Closed (text : Text) : Prop := text.getLast? ≠ some (.char '&')

instance (text : Text) : Decidable (Closed text) :=
  inferInstanceAs (Decidable (text.getLast? ≠ some (.char '&')))

variable {a part first rest text : Text} {parts others : List Text} {letter : Letter}

theorem Closed.tail (closed : Closed (letter :: rest)) : Closed rest := by
  cases rest with
  | nil => nofun
  | cons next rest => simpa [Closed, List.getLast?_cons_cons] using closed

theorem not_begins_iff :
    ¬ conjunction <+: letter :: rest ↔
      ∀ more, letter = .char '&' → rest = .char '&' :: more → False := by
  constructor
  · intro apart more first next
    exact apart (first ▸ next ▸ List.prefix_append conjunction more)
  · rintro apart ⟨more, eq⟩
    cases eq
    exact apart more rfl rfl

theorem conjuncts_cons (apart : ¬ conjunction <+: letter :: rest) :
    conjuncts (letter :: rest) = consFirst letter (conjuncts rest) :=
  conjuncts.eq_3 letter rest (not_begins_iff.mp apart)

theorem conjuncts_ne_nil (text : Text) : conjuncts text ≠ [] := by
  unfold conjuncts
  split
  · exact List.cons_ne_nil _ _
  · exact List.cons_ne_nil _ _
  · rename_i letter rest _
    cases conjuncts rest <;> exact List.cons_ne_nil _ _

/-- What a text is cut into: it is a single part, or its first part ends at a conjunction. -/
theorem conjuncts_eq_cons (cut : conjuncts text = first :: others) :
    ¬ conjunction <:+: first ∧
      ((others = [] ∧ text = first) ∨
        ∃ rest, others = conjuncts rest ∧ text = first ++ conjunction ++ rest ∧ Closed first) := by
  induction text using conjuncts.induct generalizing first others with
  | case1 =>
    cases cut
    exact ⟨by decide, .inl ⟨rfl, rfl⟩⟩
  | case2 rest ih =>
    cases cut
    exact ⟨by decide, .inr ⟨rest, rfl, rfl, by decide⟩⟩
  | case3 letter rest apart ih =>
    have apart := not_begins_iff.mpr apart
    rw [conjuncts_cons apart] at cut
    cases inner : conjuncts rest with
    | nil => exact absurd inner (conjuncts_ne_nil rest)
    | cons head tail =>
      rw [inner] at cut
      cases cut
      obtain ⟨free, split⟩ := ih inner
      -- The rest begins as its first part does, so that no conjunction begins with the letter.
      have starts : head <+: rest := by
        rcases split with ⟨-, eq⟩ | ⟨more, -, eq, -⟩
        · exact eq ▸ List.prefix_rfl
        · exact eq ▸ (List.prefix_append head _).trans (List.prefix_append _ more)
      have free' : ¬ conjunction <:+: letter :: head := by
        rw [List.infix_cons_iff, not_or]
        exact ⟨fun begins => apart (begins.trans (List.cons_prefix_cons.mpr ⟨rfl, starts⟩)), free⟩
      refine ⟨free', ?_⟩
      rcases split with ⟨rfl, rfl⟩ | ⟨more, rfl, rfl, closed⟩
      · exact .inl ⟨rfl, rfl⟩
      · refine .inr ⟨more, rfl, rfl, ?_⟩
        cases head with
        | nil =>
          intro ends
          cases ends
          exact apart ⟨.char '&' :: more, rfl⟩
        | cons next tail =>
          unfold Closed
          rw [List.getLast?_cons_cons]
          exact closed

theorem consFirst_append (nonempty : parts ≠ []) :
    consFirst letter (parts ++ others) = consFirst letter parts ++ others := by
  cases parts with
  | nil => exact absurd rfl nonempty
  | cons part parts => rfl

/-- **A conjunction behind a text that does not end in `&` parts it from what follows.** -/
theorem conjuncts_append (closed : Closed a) (rest : Text) :
    conjuncts (a ++ conjunction ++ rest) = conjuncts a ++ conjuncts rest := by
  induction a using conjuncts.induct with
  | case1 => rfl
  | case2 more ih => exact congrArg ([] :: ·) (ih closed.tail.tail)
  | case3 letter more apart ih =>
    have apart := not_begins_iff.mpr apart
    have still : ¬ conjunction <+: letter :: (more ++ conjunction ++ rest) := by
      rintro ⟨text, eq⟩
      cases more with
      | nil =>
        cases eq
        exact closed rfl
      | cons next more =>
        cases eq
        exact apart ⟨more, rfl⟩
    calc conjuncts (letter :: (more ++ conjunction ++ rest))
        = consFirst letter (conjuncts (more ++ conjunction ++ rest)) := conjuncts_cons still
      _ = consFirst letter (conjuncts more ++ conjuncts rest) := by rw [ih closed.tail]
      _ = consFirst letter (conjuncts more) ++ conjuncts rest :=
        consFirst_append (conjuncts_ne_nil more)
      _ = conjuncts (letter :: more) ++ conjuncts rest := by rw [conjuncts_cons apart]

/-- A text without a conjunction is a single part. -/
theorem conjuncts_eq_singleton (free : ¬ conjunction <:+: part) : conjuncts part = [part] := by
  cases cut : conjuncts part with
  | nil => exact absurd cut (conjuncts_ne_nil part)
  | cons first others =>
    rcases (conjuncts_eq_cons cut).2 with ⟨rfl, rfl⟩ | ⟨rest, -, eq, -⟩
    · rfl
    · exact absurd ⟨first, rest, eq.symm⟩ free

theorem join_cons (nonempty : parts ≠ []) :
    join conjunction (part :: parts) = part ++ conjunction ++ join conjunction parts := by
  exact List.intercalate_cons_of_ne_nil nonempty

/-- Parts that were cut apart are found again. -/
theorem conjuncts_join (nonempty : parts ≠ []) (free : ∀ part ∈ parts, ¬ conjunction <:+: part)
    (closed : ∀ part ∈ parts.dropLast, Closed part) :
    conjuncts (join conjunction parts) = parts := by
  induction parts with
  | nil => exact absurd rfl nonempty
  | cons part parts ih =>
    have single := conjuncts_eq_singleton (free part (List.mem_cons_self ..))
    by_cases last : parts = []
    · subst last
      simpa [join] using single
    · rw [List.dropLast_cons_of_ne_nil last] at closed
      rw [join_cons last, conjuncts_append (closed part (List.mem_cons_self ..)), single,
        ih last (fun part mem => free part (List.mem_cons_of_mem _ mem))
          fun part mem => closed part (List.mem_cons_of_mem _ mem)]
      rfl

/-- **What holds of the parts of a text**: no conjunction is left in them, all but the last can
stand in front of one, and joined they are the text. -/
theorem conjuncts_spec (text : Text) :
    (∀ part ∈ conjuncts text, ¬ conjunction <:+: part) ∧
      (∀ part ∈ (conjuncts text).dropLast, Closed part) ∧
        join conjunction (conjuncts text) = text := by
  induction length : text.length using Nat.strong_induction_on generalizing text with
  | h n ih =>
    cases cut : conjuncts text with
    | nil => exact absurd cut (conjuncts_ne_nil text)
    | cons first others =>
      obtain ⟨free, split⟩ := conjuncts_eq_cons cut
      rcases split with ⟨rfl, rfl⟩ | ⟨rest, rfl, rfl, closed⟩
      · refine ⟨?_, nofun, ?_⟩
        · intro part mem
          rw [List.mem_singleton.mp mem]
          exact free
        · simp [join]
      · have shorter : rest.length < n := by
          rw [← length]
          simp [conjunction]
          omega
        obtain ⟨frees, closeds, joined⟩ := ih rest.length shorter rest rfl
        rw [List.dropLast_cons_of_ne_nil (conjuncts_ne_nil rest), join_cons (conjuncts_ne_nil rest),
          joined]
        exact ⟨List.forall_mem_cons.mpr ⟨free, frees⟩, List.forall_mem_cons.mpr ⟨closed, closeds⟩,
          rfl⟩

/-- **Taking a part out leaves the others as they are**, unless it was the only one. -/
theorem conjuncts_without {before after : List Text} {part : Text}
    (cut : conjuncts text = before ++ part :: after) (left : before ++ after ≠ []) :
    conjuncts (join conjunction (before ++ after)) = before ++ after := by
  obtain ⟨free, closed, -⟩ := conjuncts_spec text
  rw [cut] at free closed
  refine conjuncts_join left ?_ ?_
  · intro other mem
    refine free other ?_
    simp only [List.mem_append, List.mem_cons] at mem ⊢
    tauto
  · intro other mem
    refine closed other ?_
    cases after with
    | nil =>
      rw [List.append_nil] at mem
      rw [List.dropLast_concat]
      exact List.dropLast_subset before mem
    | cons next after =>
      rw [List.dropLast_append_of_ne_nil (List.cons_ne_nil _ _), List.mem_append] at mem ⊢
      rw [List.dropLast_cons_of_ne_nil (List.cons_ne_nil _ _), List.mem_cons]
      tauto

end Gamebook.Text

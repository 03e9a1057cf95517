/-
# Integers in the digits of any script

A numeral of decimal digits, whatever their scripts, denotes the number that the values of its
digits give place by place (`digitsValue?`).  This file settles that the reader of integers finds
this number, as long as there are not too many digits (`integer?_of_digits`).  Of what looks like
digits it reads nothing else (`integer?_of_digitLike`).

The reader works on characters: it spells the digits in ASCII, drops blanks and underscores, and
looks for a sign.  Nothing of this touches a digit, because no digit of any script is blank and all
but the ten of ASCII lie beyond it; both are read off the tables.
-/
import Gamebook.Number.Literal
import Mathlib.Data.List.Forall2
import Mathlib.Data.List.TakeWhile

namespace Gamebook

/-! ## 1. Stripping -/

namespace Text

variable {α : Type} {p : α → Bool} {before inner after : List α}

theorem dropWhile_between (outside : ∀ a ∈ before, p a = true)
    (inside : ∀ a ∈ inner, p a = false) (rest : List α) (kept : inner ≠ []) :
    (before ++ (inner ++ rest)).dropWhile p = inner ++ rest := by
  rw [List.dropWhile_append_of_pos outside]
  cases inner with
  | nil => exact absurd rfl kept
  | cons a more =>
    rw [List.cons_append, List.dropWhile_cons_of_neg]
    simp [inside a (List.mem_cons_self ..)]

/-- **Stripping takes what is to be dropped from both ends and nothing else.** -/
theorem stripWhile_between (ahead : ∀ a ∈ before, p a = true)
    (inside : ∀ a ∈ inner, p a = false) (behind : ∀ a ∈ after, p a = true) :
    stripWhile p (before ++ (inner ++ after)) = inner := by
  cases kept : inner with
  | nil =>
    have nothing : (before ++ after).dropWhile p = [] := by
      rw [List.dropWhile_append_of_pos ahead]
      exact List.dropWhile_eq_nil_iff.mpr behind
    simp [stripWhile, dropEndWhile, nothing]
  | cons a more =>
    rw [← kept]
    have nonempty : inner ≠ [] := by simp [kept]
    have fromEnd : (after.reverse ++ (inner.reverse ++ [])).dropWhile p = inner.reverse ++ [] :=
      dropWhile_between (by simpa using behind) (by simpa using inside) [] (by simpa using nonempty)
    rw [List.append_nil] at fromEnd
    rw [stripWhile, dropWhile_between ahead inside after nonempty, dropEndWhile,
      List.reverse_append, fromEnd, List.reverse_reverse]

theorem stripWhile_eq_self (inside : ∀ a ∈ inner, p a = false) : stripWhile p inner = inner := by
  have stripped : stripWhile p ([] ++ (inner ++ [])) = inner :=
    stripWhile_between nofun inside nofun
  simpa using stripped

end Text

/-! ## 2. Digits -/

namespace Text

/-- The number that decimal digits of any scripts denote. -/
def digitsValue? (cs : List Char) : Option Nat :=
  (cs.mapM decimalValue?).map fun values => values.foldl (fun n value => 10 * n + value) 0

/-- The digit of ASCII with a value. -/
def asciiDigit (value : Nat) : Char := Char.ofNat ('0'.toNat + value)

/-- Characters are digits with these values. -/
def Digits (cs : List Char) (values : List Nat) : Prop :=
  List.Forall₂ (fun c value => decimalValue? c = some value) cs values

variable {c : Char} {value : Nat}

theorem decimalValue?_eq_some (h : decimalValue? c = some value) :
    ∃ start ∈ decimalZeros, start ≤ c.toNat ∧ c.toNat ≤ start + 9 ∧ value = c.toNat - start := by
  obtain ⟨start, found, rfl⟩ := Option.map_eq_some_iff.mp h
  have range := List.find?_some found
  simp only [Bool.and_eq_true, decide_eq_true_eq] at range
  exact ⟨start, List.mem_of_find?_eq_some found, range.1, range.2, rfl⟩

theorem zeros_apart_from_blanks :
    ∀ start ∈ decimalZeros, ∀ range ∈ blankTable, start + 9 < range.1 ∨ range.2 < start := by
  decide

theorem zeros_ascii_or_beyond : ∀ start ∈ decimalZeros, start = 48 ∨ 127 ≤ start := by decide

/-- No digit is blank. -/
theorem isBlank_of_digit (h : decimalValue? c = some value) : isBlank c = false := by
  obtain ⟨start, mem, low, high, -⟩ := decimalValue?_eq_some h
  simp only [isBlank, CodeRange.covers, List.any_eq_false, Bool.and_eq_true, decide_eq_true_eq]
  intro range blank inside
  rcases zeros_apart_from_blanks start mem range blank with below | above <;> omega

/-- There are no capital digits. -/
theorem toLower_of_digit (h : decimalValue? c = some value) : c.toLower = c := by
  obtain ⟨start, mem, low, high, -⟩ := decimalValue?_eq_some h
  have apart : ¬ (65 ≤ c.toNat ∧ c.toNat ≤ 90) := by
    rcases zeros_ascii_or_beyond start mem with eq | beyond <;> omega
  unfold Char.toLower
  rw [dif_neg]
  rintro ⟨low, high⟩
  exact apart ⟨UInt32.le_iff_toNat_le.mp low, UInt32.le_iff_toNat_le.mp high⟩

theorem value_lt_ten (h : decimalValue? c = some value) : value < 10 := by
  obtain ⟨start, -, low, high, rfl⟩ := decimalValue?_eq_some h
  omega

/-- A digit of ASCII is spelled by its value. -/
theorem eq_asciiDigit (h : decimalValue? c = some value) (ascii : c.toNat < 127) :
    c = asciiDigit value := by
  obtain ⟨start, mem, low, high, rfl⟩ := decimalValue?_eq_some h
  obtain rfl : start = 48 := by
    rcases zeros_ascii_or_beyond start mem with eq | beyond <;> omega
  have spelled : '0'.toNat + (c.toNat - 48) = c.toNat := Nat.add_sub_cancel' low
  rw [asciiDigit, spelled, Char.ofNat_toNat]

/-- How the readers of numerals see the digits of ASCII. -/
theorem asciiDigit_spec : ∀ value < 10,
    isAsciiDigit (asciiDigit value) = true ∧ asciiDigitValue (asciiDigit value) = value ∧
      isAsciiBlank (asciiDigit value) = false ∧ asciiDigit value ≠ '_' ∧
      asciiDigit value ≠ '+' ∧ asciiDigit value ≠ '-' := by
  decide

theorem digits_of_mapM {cs : List Char} {values : List Nat}
    (h : cs.mapM decimalValue? = some values) : Digits cs values := by
  induction cs generalizing values with
  | nil =>
    cases h
    exact .nil
  | cons c cs ih =>
    rw [List.mapM_cons] at h
    obtain ⟨value, first, h⟩ := Option.bind_eq_some_iff.mp h
    obtain ⟨rest, more, h⟩ := Option.bind_eq_some_iff.mp h
    cases h
    exact .cons first (ih more)

theorem exists_digits {cs : List Char} (each : ∀ c ∈ cs, ∃ value, decimalValue? c = some value) :
    ∃ values, Digits cs values := by
  induction cs with
  | nil => exact ⟨[], .nil⟩
  | cons c cs ih =>
    obtain ⟨⟨value, first⟩, each⟩ := List.forall_mem_cons.mp each
    obtain ⟨values, rest⟩ := ih each
    exact ⟨value :: values, .cons first rest⟩

theorem Digits.exists_value {cs : List Char} {values : List Nat} (h : Digits cs values) :
    ∀ c ∈ cs, ∃ value, decimalValue? c = some value := by
  induction h with
  | nil => nofun
  | cons first _ ih => exact List.forall_mem_cons.mpr ⟨⟨_, first⟩, ih⟩

theorem Digits.lt_ten {cs : List Char} {values : List Nat} (h : Digits cs values) :
    ∀ value ∈ values, value < 10 := by
  induction h with
  | nil => nofun
  | cons first _ ih => exact List.forall_mem_cons.mpr ⟨value_lt_ten first, ih⟩

end Text

/-! ## 3. Integers -/

namespace Literal

open Text

variable {cs : List Char} {values : List Nat}

/-- The digits of any scripts are spelled in ASCII, and nothing is dropped. -/
theorem normalise_of_digits (h : Digits cs values) :
    normalise cs = some (values.map asciiDigit) := by
  have spelled : (cs.mapM fun c =>
      if c.toNat < 127 then some c
      else if isBlank c then some ' '
      else (decimalValue? c).map fun value => Char.ofNat ('0'.toNat + value)) =
        some (values.map asciiDigit) := by
    induction h with
    | nil => rfl
    | @cons c value cs values first _ ih =>
      rw [List.mapM_cons, ih, isBlank_of_digit first, first]
      split
      · rename_i ascii
        rw [eq_asciiDigit first ascii]
        rfl
      · rfl
  have kept : stripWhile isAsciiBlank (values.map asciiDigit) = values.map asciiDigit := by
    refine stripWhile_eq_self (List.forall_mem_map.mpr fun value mem => ?_)
    exact (asciiDigit_spec value (h.lt_ten value mem)).2.2.1
  unfold normalise
  rw [spelled]
  exact congrArg some kept

theorem dropUnderscores_of_digits (small : ∀ value ∈ values, value < 10) (previous : Option Char) :
    dropUnderscores previous (values.map asciiDigit) = some (values.map asciiDigit) := by
  induction values generalizing previous with
  | nil => rfl
  | cons value values ih =>
    obtain ⟨first, rest⟩ := List.forall_mem_cons.mp small
    have apart := (asciiDigit_spec value first).2.2.2.1
    rw [List.map_cons, dropUnderscores, ih rest]
    · rfl
    · exact apart

theorem integerParts?_of_digits (small : ∀ value ∈ values, value < 10) (nonempty : values ≠ []) :
    integerParts? (values.map asciiDigit) = some (false, values.map asciiDigit) := by
  have unsigned : splitSign (values.map asciiDigit) = (false, values.map asciiDigit) := by
    cases values with
    | nil => rfl
    | cons value values =>
      obtain ⟨first, -⟩ := List.forall_mem_cons.mp small
      obtain ⟨-, -, -, -, plus, minus⟩ := asciiDigit_spec value first
      rw [List.map_cons, splitSign]
      · exact fun _ eq => plus (List.cons.inj eq).1
      · exact fun _ eq => minus (List.cons.inj eq).1
  have digits : (values.map asciiDigit).all isAsciiDigit = true := by
    rw [List.all_map, List.all_eq_true]
    exact fun value mem => (asciiDigit_spec value (small value mem)).1
  unfold integerParts?
  rw [unsigned]
  simp [digits, nonempty]

/-- The digits of ASCII denote what their values give place by place. -/
theorem asciiDigitsValue_of_digits (small : ∀ value ∈ values, value < 10) :
    asciiDigitsValue (values.map asciiDigit) =
      values.foldl (fun n value => 10 * n + value) 0 := by
  rw [asciiDigitsValue, List.foldl_map]
  refine List.foldl_ext _ _ 0 fun n value mem => ?_
  rw [(asciiDigit_spec value (small value mem)).2.1]

/-- Digits of any scripts are read as those of ASCII with the same values. -/
theorem integer?_eq_integerOf (digits : Digits cs values) (nonempty : cs ≠ []) :
    integer? cs = integerOf false (values.map asciiDigit) := by
  have small := digits.lt_ten
  have nonempty : values ≠ [] := by
    rintro rfl
    exact nonempty (List.length_eq_zero_iff.mp digits.length_eq)
  unfold integer?
  rw [normalise_of_digits digits, Option.bind_some, dropUnderscores_of_digits small,
    Option.bind_some, integerParts?_of_digits small nonempty]

/-- **Digits of any scripts are read as the number that they denote**, unless there are too many
of them. -/
theorem integer?_of_digits {k : Nat} (value : digitsValue? cs = some k) (nonempty : cs ≠ [])
    (fits : cs.length ≤ digitLimit) : integer? cs = .ok k := by
  obtain ⟨values, digits, rfl⟩ := Option.map_eq_some_iff.mp value
  have digits := digits_of_mapM digits
  have length : cs.length = values.length := digits.length_eq
  have within : ¬ digitLimit < (values.map asciiDigit).length := by
    rw [List.length_map, ← length]
    omega
  rw [integer?_eq_integerOf digits nonempty]
  simp only [integerOf, if_neg within, asciiDigitsValue_of_digits digits.lt_ten]
  rfl

/-! ## 4. What looks like digits -/

/-- What only looks like a digit lies beyond ASCII and apart from the blanks. -/
theorem digitLike_apart : ∀ range ∈ digitLikeTable,
    127 ≤ range.1 ∧ ∀ blank ∈ blankTable, range.2 < blank.1 ∨ blank.2 < range.1 := by
  decide

/-- What cannot be done to one of several things cannot be done to all of them. -/
theorem mapM_eq_none {α β : Type} {f : α → Option β} {as : List α} {a : α} (mem : a ∈ as)
    (fails : f a = none) : as.mapM f = none := by
  induction as with
  | nil => contradiction
  | cons first rest ih =>
    rw [List.mapM_cons]
    rcases List.mem_cons.mp mem with rfl | later
    · rw [fails]
      rfl
    · rw [ih later]
      cases f first <;> rfl

/-- What only looks like a digit cannot be spelled in ASCII. -/
theorem normalise_of_mem {c : Char} (mem : c ∈ cs) (like : isDigitLike c = true)
    (undefined : decimalValue? c = none) : normalise cs = none := by
  have listed : ∃ range ∈ digitLikeTable, range.1 ≤ c.toNat ∧ c.toNat ≤ range.2 := by
    simpa [isDigitLike, undefined, CodeRange.covers] using like
  obtain ⟨range, listed, inside⟩ := listed
  obtain ⟨beyond, apart⟩ := digitLike_apart range listed
  have solid : isBlank c = false := by
    simp only [isBlank, CodeRange.covers, List.any_eq_false, Bool.and_eq_true, decide_eq_true_eq]
    intro blank table within
    rcases apart blank table with below | above <;> omega
  unfold normalise
  rw [mapM_eq_none mem]
  · rfl
  · rw [if_neg (by omega), solid, undefined]
    rfl

/-- **What looks like digits is no integer exactly** if some of it is no decimal digit, or if there
is too much of it. -/
theorem integer?_of_digitLike (like : cs.all isDigitLike = true) (nonempty : cs ≠ []) :
    (∃ fault, integer? cs = .error fault) ↔
      (∃ c ∈ cs, decimalValue? c = none) ∨ digitLimit < cs.length := by
  by_cases decimal : ∃ c ∈ cs, decimalValue? c = none
  · obtain ⟨c, mem, undefined⟩ := decimal
    refine ⟨fun _ => .inl ⟨c, mem, undefined⟩, fun _ => ⟨.malformedInteger, ?_⟩⟩
    unfold integer?
    rw [normalise_of_mem mem (List.all_eq_true.mp like c mem) undefined]
    rfl
  · have digits : ∃ values, Digits cs values := by
      refine exists_digits fun c mem => Option.ne_none_iff_exists'.mp fun undefined => ?_
      exact decimal ⟨c, mem, undefined⟩
    obtain ⟨values, digits⟩ := digits
    have length : cs.length = values.length := digits.length_eq
    rw [integer?_eq_integerOf digits nonempty, or_iff_right decimal, integerOf, List.length_map,
      length]
    split
    · rename_i long
      exact ⟨fun _ => long, fun _ => ⟨_, rfl⟩⟩
    · rename_i fits
      exact ⟨nofun, fun long => absurd long fits⟩

end Literal
end Gamebook

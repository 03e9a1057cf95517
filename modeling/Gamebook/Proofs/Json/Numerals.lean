/-
# Numerals in JSON

The numbers of a save file are read as they were written (`scalar_renderNumber`), their kind
included: an integer has neither a point nor an exponent, and a double has one of them.

* **Numerals in their parts.**  `Numeral.spelled` spells a numeral, and `scalar` takes it apart
  again (`scalar_spelled`), if no part is empty and no zero stands in front (`Numeral.Proper`).
* **Integers** are spelled by their digits (`toList_toString_int`).
* **Doubles.**  Each of the four layouts is a numeral (`Numeral.layout_eq`) that has the value of
  the decimal which is laid out (`Numeral.decimal_ofDecimal`), and that is enough for the decimal to
  read back.
-/
import Gamebook.Json.Printer
import Gamebook.Json.Reader
import Gamebook.Proofs.Number.ReadBack
import Gamebook.Proofs.Text.Split

namespace Gamebook

open Text

/-! ## 1. Digits -/

namespace NumeralStyle

variable {n : Nat}

theorem digitsOf_eq (n : Nat) : digitsOf n = Nat.toDigits 10 n := Nat.toList_repr

theorem digitsOf_ne_nil (n : Nat) : digitsOf n ≠ [] := by
  rw [digitsOf_eq]
  exact Nat.toDigits_ne_nil

theorem isAsciiDigit_digitsOf (n : Nat) : ∀ c ∈ digitsOf n, isAsciiDigit c = true := by
  intro c mem
  rw [digitsOf_eq] at mem
  have digit := Nat.isDigit_of_mem_toDigits (by decide) (by decide) mem
  simpa [Char.isDigit, isAsciiDigit, Char.le_def] using digit

theorem length_digitsOf_le {k : Nat} (positive : 0 < k) :
    (digitsOf n).length ≤ k ↔ n < Nat.pow 10 k := by
  rw [digitsOf_eq]
  exact Nat.length_toDigits_le_iff (by decide) positive

/-- A positive number has no zero in front. -/
theorem head_digitsOf (positive : n ≠ 0) {c : Char} {rest : List Char}
    (split : digitsOf n = c :: rest) : c ≠ '0' := by
  rw [digitsOf_eq] at split
  induction n using Nat.base_induction 10 (by decide) generalizing rest with
  | single n small =>
    rw [Nat.toDigits_of_lt_base small] at split
    obtain ⟨rfl, -⟩ := List.cons.inj split
    exact fun zero => positive (Nat.digitChar_eq_zero.mp zero)
  | digit n k small some ih =>
    rw [← Nat.toDigits_append_toDigits (by decide) some small] at split
    cases leading : Nat.toDigits 10 n with
    | nil => exact absurd leading Nat.toDigits_ne_nil
    | cons first more =>
      rw [leading] at split
      obtain ⟨rfl, -⟩ := List.cons.inj split
      exact ih (Nat.pos_iff_ne_zero.mp some) leading

end NumeralStyle

theorem Text.asciiDigitsValue_eq (cs : List Char) :
    asciiDigitsValue cs = Nat.ofDigitChars 10 cs 0 := rfl

theorem Text.asciiDigitsValue_digitsOf (n : Nat) :
    asciiDigitsValue (NumeralStyle.digitsOf n) = n := by
  rw [NumeralStyle.digitsOf_eq]
  exact Nat.ofDigitChars_ten_toDigits

/-- Zeros after a number move it up by so many places. -/
theorem Text.asciiDigitsValue_append_zeros (cs : List Char) (k : Nat) :
    asciiDigitsValue (cs ++ List.replicate k '0') = Nat.pow 10 k * asciiDigitsValue cs := by
  rw [asciiDigitsValue_eq, Nat.ofDigitChars_append, Nat.ofDigitChars_replicate_zero]
  rfl

/-- Zeros in front of a number do not count. -/
theorem Text.asciiDigitsValue_zeros_append (k : Nat) (cs : List Char) :
    asciiDigitsValue (List.replicate k '0' ++ cs) = asciiDigitsValue cs := by
  rw [asciiDigitsValue_eq, Nat.ofDigitChars_append, Nat.ofDigitChars_replicate_zero, Nat.mul_zero]
  rfl

namespace Json

/-! ## 2. Numerals -/

/-- A text that no numeral goes on with. -/
def Parted (rest : List Char) : Prop :=
  ∀ c ∈ rest.head?, isAsciiDigit c = false ∧ c ≠ '.' ∧ c ≠ 'e' ∧ c ≠ 'E'

/-- Some digits, at least one. -/
structure Digits (cs : List Char) : Prop where
  nonempty : cs ≠ []
  all : ∀ c ∈ cs, isAsciiDigit c = true

namespace Numeral

/-- A fraction with its point, if there is one. -/
def fractionText : Option (List Char) → List Char
  | some digits => '.' :: digits
  | none => []

/-- An exponent with its mark and its sign, if there is one. -/
def exponentText : Option (Bool × List Char) → List Char
  | some (negative, digits) => 'e' :: (if negative then '-' else '+') :: digits
  | none => []

/-- A numeral as it is spelled, without its sign. -/
def unsigned (n : Numeral) : List Char :=
  n.whole ++ (fractionText n.fraction ++ exponentText n.exponent)

/-- A numeral as it is spelled. -/
def spelled (n : Numeral) : List Char := if n.negative then '-' :: n.unsigned else n.unsigned

/-- **A numeral that can be spelled**: no part is without digits, and no zero stands in front of
other digits. -/
structure Proper (n : Numeral) : Prop where
  whole : Digits n.whole
  plain : n.whole = ['0'] ∨ n.whole.head? ≠ some '0'
  fraction : ∀ digits ∈ n.fraction, Digits digits
  exponent : ∀ exponent ∈ n.exponent, Digits exponent.2

end Numeral

/-- What is spelled are digits and the marks of a numeral. -/
theorem forall_spelled {holds : Char → Prop} {n : Numeral} (proper : n.Proper)
    (digits : ∀ c, isAsciiDigit c = true → holds c)
    (marks : holds '-' ∧ holds '+' ∧ holds '.' ∧ holds 'e') : ∀ c ∈ n.spelled, holds c := by
  have all {cs : List Char} (proper : Digits cs) : ∀ c ∈ cs, holds c :=
    fun c mem => digits c (proper.all c mem)
  obtain ⟨minus, plus, point, mark⟩ := marks
  have fraction : ∀ c ∈ Numeral.fractionText n.fraction, holds c := by
    cases h : n.fraction with
    | none => exact fun c mem => absurd mem List.not_mem_nil
    | some digits => exact List.forall_mem_cons.mpr ⟨point, all (proper.fraction digits h)⟩
  have exponent : ∀ c ∈ Numeral.exponentText n.exponent, holds c := by
    cases h : n.exponent with
    | none => exact fun c mem => absurd mem List.not_mem_nil
    | some exponent =>
      refine List.forall_mem_cons.mpr ⟨mark, List.forall_mem_cons.mpr
        ⟨?_, all (proper.exponent exponent h)⟩⟩
      split
      · exact minus
      · exact plus
  have unsigned : ∀ c ∈ n.unsigned, holds c :=
    List.forall_mem_append.mpr ⟨all proper.whole, List.forall_mem_append.mpr ⟨fraction, exponent⟩⟩
  unfold Numeral.spelled
  split
  · exact List.forall_mem_cons.mpr ⟨minus, unsigned⟩
  · exact unsigned

variable {cs rest : List Char}

theorem spanDigits_append (digits : ∀ c ∈ cs, isAsciiDigit c = true)
    (stop : ∀ c ∈ rest.head?, isAsciiDigit c = false) : spanDigits (cs ++ rest) = (cs, rest) := by
  obtain ⟨taken, dropped⟩ := span_append digits stop
  unfold spanDigits
  rw [taken, dropped]

theorem exponent?_of_parted (parted : Parted rest) : exponent? rest = (none, rest) := by
  cases rest with
  | nil => rfl
  | cons c rest =>
    obtain ⟨-, -, small, capital⟩ := parted c rfl
    simp [exponent?, small, capital]

/-- The exponent is read as it is spelled. -/
theorem exponent?_exponentText {exponent : Option (Bool × List Char)}
    (proper : ∀ e ∈ exponent, Digits e.2) (parted : Parted rest) :
    exponent? (Numeral.exponentText exponent ++ rest) = (exponent, rest) := by
  cases exponent with
  | none => exact exponent?_of_parted parted
  | some exponent =>
    obtain ⟨negative, digits⟩ := exponent
    have proper : Digits digits := proper _ rfl
    have sign : Literal.splitSign ((if negative then '-' else '+') :: (digits ++ rest)) =
        (negative, digits ++ rest) := by
      cases negative <;> rfl
    have span := spanDigits_append proper.all fun c mem => (parted c mem).1
    simp only [Numeral.exponentText, List.cons_append, exponent?, sign, span]
    cases digits with
    | nil => exact absurd rfl proper.nonempty
    | cons c digits => rfl

/-- Nothing that comes after the fraction is a part of it. -/
theorem head_exponentText (exponent : Option (Bool × List Char)) (parted : Parted rest) :
    ∀ c ∈ (Numeral.exponentText exponent ++ rest).head?, isAsciiDigit c = false ∧ c ≠ '.' := by
  intro c mem
  cases exponent with
  | none => exact ⟨(parted c mem).1, (parted c mem).2.1⟩
  | some exponent =>
    obtain rfl : 'e' = c := Option.some.inj mem
    decide

/-- The fraction is read as it is spelled. -/
theorem fraction?_fractionText {fraction : Option (List Char)}
    (proper : ∀ digits ∈ fraction, Digits digits)
    (stop : ∀ c ∈ rest.head?, isAsciiDigit c = false ∧ c ≠ '.') :
    fraction? (Numeral.fractionText fraction ++ rest) = (fraction, rest) := by
  cases fraction with
  | none =>
    cases rest with
    | nil => rfl
    | cons c rest =>
      have point := (stop c rfl).2
      unfold Numeral.fractionText fraction?
      split
      · rename_i same
        exact absurd (List.cons.inj same).1 point
      · rfl
  | some digits =>
    have proper := proper digits rfl
    have span := spanDigits_append proper.all fun c mem => (stop c mem).1
    simp only [Numeral.fractionText, List.cons_append, fraction?, span]
    cases digits with
    | nil => exact absurd rfl proper.nonempty
    | cons c digits => rfl

/-- Nothing that comes after the integer digits is one of them. -/
theorem head_fractionText (fraction : Option (List Char))
    (stop : ∀ c ∈ rest.head?, isAsciiDigit c = false ∧ c ≠ '.') :
    ∀ c ∈ (Numeral.fractionText fraction ++ rest).head?, isAsciiDigit c = false := by
  intro c mem
  cases fraction with
  | none => exact (stop c mem).1
  | some digits =>
    obtain rfl : '.' = c := Option.some.inj mem
    decide

/-- The integer digits come first, and then the fraction and the exponent. -/
theorem numeral?_append {whole tail : List Char} (digits : Digits whole)
    (plain : whole = ['0'] ∨ whole.head? ≠ some '0')
    (stop : ∀ c ∈ tail.head?, isAsciiDigit c = false) (negative : Bool) :
    numeral? negative (whole ++ tail) =
      some (⟨negative, whole, (fraction? tail).1, (exponent? (fraction? tail).2).1⟩,
        (exponent? (fraction? tail).2).2) := by
  rcases plain with rfl | plain
  · rfl
  · have span := spanDigits_append digits.all stop
    cases whole with
    | nil => exact absurd rfl digits.nonempty
    | cons c whole =>
      have other : c ≠ '0' := fun same => plain (congrArg some same)
      rw [List.cons_append] at span ⊢
      unfold numeral?
      simp only
      split
      · rename_i same
        exact absurd (List.cons.inj same).1 other
      · rw [span]
        rfl

/-- **A numeral is read as it is spelled.** -/
theorem numeral?_unsigned {n : Numeral} (proper : n.Proper) (parted : Parted rest) :
    numeral? n.negative (n.unsigned ++ rest) = some (n, rest) := by
  have afterFraction := head_exponentText n.exponent parted
  have afterWhole := head_fractionText n.fraction afterFraction
  rw [Numeral.unsigned, List.append_assoc, List.append_assoc,
    numeral?_append proper.whole proper.plain afterWhole,
    fraction?_fractionText proper.fraction afterFraction]
  simp only [exponent?_exponentText proper.exponent parted]

/-! ## 3. Scalars -/

/-- The words are read as they are spelled. -/
theorem scalar_word (word : String) {a : Atom} (mem : (word, a) ∈ words) (rest : List Char) :
    scalar (word.toList ++ rest) = .ok (a, rest) := by
  simp only [words, List.mem_cons, Prod.mk.injEq, List.not_mem_nil, or_false] at mem
  rcases mem with
    ⟨rfl, rfl⟩ | ⟨rfl, rfl⟩ | ⟨rfl, rfl⟩ | ⟨rfl, rfl⟩ | ⟨rfl, rfl⟩ | ⟨rfl, rfl⟩ <;> rfl

/-- No word begins with a digit. -/
theorem no_word_of_digit {c : Char} (digit : isAsciiDigit c = true) (tail : List Char) :
    (words.findSome? fun (word, a) =>
      (afterWord? word (c :: tail)).map fun rest => (a, rest)) = none ∧
    (words.findSome? fun (word, a) =>
      (afterWord? word ('-' :: c :: tail)).map fun rest => (a, rest)) = none := by
  have apart : ∀ d, isAsciiDigit d = false → d ≠ c := by
    rintro d other rfl
    rw [digit] at other
    contradiction
  have n := apart 'n' (by decide)
  have t := apart 't' (by decide)
  have f := apart 'f' (by decide)
  have N := apart 'N' (by decide)
  have I := apart 'I' (by decide)
  have minus := apart '-' (by decide)
  exact ⟨by simp [words, afterWord?, n, t, f, N, I, minus], by simp [words, afterWord?, I]⟩

/-- A text that begins with a digit, be it behind a minus, is read as a numeral. -/
theorem scalar_of_digit {c : Char} (digit : isAsciiDigit c = true) {tail : List Char}
    {negative : Bool} {n : Numeral} (read : numeral? negative (c :: tail) = some (n, rest))
    {value : Number} (number : n.number = .ok value) :
    scalar (if negative then '-' :: c :: tail else c :: tail) = .ok (.number value, rest) := by
  obtain ⟨plain, behind⟩ := no_word_of_digit digit tail
  cases negative with
  | true =>
    rw [if_pos rfl, scalar, behind]
    simp only [read, number]
  | false =>
    have other : ∀ rest, c :: tail = '-' :: rest → False := by
      rintro _ ⟨⟩
      contradiction
    rw [if_neg nofun, scalar, plain]
    · simp only [read, number]
    · exact other

/-- **A number is read as it is spelled.** -/
theorem scalar_spelled {n : Numeral} (proper : n.Proper) (parted : Parted rest) {value : Number}
    (number : n.number = .ok value) :
    scalar (n.spelled ++ rest) = .ok (.number value, rest) := by
  have read := numeral?_unsigned proper parted
  have signed : n.spelled ++ rest =
      if n.negative then '-' :: (n.unsigned ++ rest) else n.unsigned ++ rest := by
    unfold Numeral.spelled
    split <;> rfl
  obtain ⟨c, whole, split⟩ := List.exists_cons_of_ne_nil proper.whole.nonempty
  have digit : isAsciiDigit c = true := proper.whole.all c (by simp [split])
  have first : n.unsigned ++ rest = c :: (whole ++ (Numeral.fractionText n.fraction ++
      Numeral.exponentText n.exponent) ++ rest) := by
    simp [Numeral.unsigned, split]
  rw [first] at read signed
  rw [signed]
  exact scalar_of_digit digit read number

/-! ## 4. Integers -/

/-- The numeral of an integer. -/
def Numeral.ofInt (n : Int) : Numeral :=
  ⟨decide (n < 0), NumeralStyle.digitsOf n.natAbs, none, none⟩

theorem digits_digitsOf (n : Nat) : Digits (NumeralStyle.digitsOf n) :=
  ⟨NumeralStyle.digitsOf_ne_nil n, NumeralStyle.isAsciiDigit_digitsOf n⟩

theorem plain_digitsOf (n : Nat) :
    NumeralStyle.digitsOf n = ['0'] ∨ (NumeralStyle.digitsOf n).head? ≠ some '0' := by
  rcases Nat.eq_zero_or_pos n with rfl | positive
  · exact .inl rfl
  · obtain ⟨c, rest, split⟩ := List.exists_cons_of_ne_nil (NumeralStyle.digitsOf_ne_nil n)
    have first := NumeralStyle.head_digitsOf (Nat.pos_iff_ne_zero.mp positive) split
    rw [split]
    exact .inr fun same => first (Option.some.inj same)

theorem proper_ofInt (n : Int) : (Numeral.ofInt n).Proper where
  whole := digits_digitsOf n.natAbs
  plain := plain_digitsOf n.natAbs
  fraction := nofun
  exponent := nofun

theorem toList_toString_int (n : Int) : (toString n).toList = (Numeral.ofInt n).spelled := by
  have digits : (Numeral.ofInt n).unsigned = Nat.toDigits 10 n.natAbs := by
    rw [← NumeralStyle.digitsOf_eq]
    exact List.append_nil _
  rw [Numeral.spelled, digits, Numeral.ofInt, Int.toString_eq_repr, Int.repr_eq_if]
  rcases Int.lt_or_le n 0 with below | above
  · have size : (-n).toNat = n.natAbs := by omega
    rw [if_neg (Int.not_le.mpr below), String.toList_append, Nat.toList_repr, size]
    simp [below]
  · have size : n.toNat = n.natAbs := by omega
    rw [if_pos above, Nat.toList_repr, size]
    simp [Int.not_lt.mpr above]

theorem number_ofInt {n : Int} (fits : (Number.int n).isOverlong = false) :
    (Numeral.ofInt n).number = .ok (.int n) := by
  have bound : n.natAbs < Nat.pow 10 Literal.digitLimit := by
    simpa [Number.isOverlong] using fits
  have within : ¬ Literal.digitLimit < (NumeralStyle.digitsOf n.natAbs).length := by
    exact Nat.not_lt.mpr ((NumeralStyle.length_digitsOf_le (by decide)).mpr bound)
  have signed : Literal.applySign (decide (n < 0)) n.natAbs = n := by
    unfold Literal.applySign
    simp only [decide_eq_true_eq]
    split <;> omega
  simp only [Numeral.number, Numeral.ofInt, Literal.integerOf, if_neg within,
    asciiDigitsValue_digitsOf, signed]

/-! ## 5. Doubles -/

namespace Numeral

open NumeralStyle

variable {negative : Bool} {d : Decimal}

/-- The number that a numeral with a fraction or an exponent spells, apart from the sign. -/
def decimal (n : Numeral) : Decimal where
  digits := asciiDigitsValue (n.whole ++ n.fraction.getD [])
  exponent := (match n.exponent with
    | some (negative, digits) => Literal.applySign negative (asciiDigitsValue digits)
    | none => 0) - (n.fraction.getD []).length

theorem number_eq {n : Numeral} (real : n.fraction ≠ none ∨ n.exponent ≠ none) :
    n.number = .ok (.double (Decimal.toBinary64 n.negative n.decimal)) := by
  obtain ⟨negative, whole, fraction, exponent⟩ := n
  cases fraction with
  | some digits => rfl
  | none =>
    cases exponent with
    | some exponent => rfl
    | none => rcases real with real | real <;> exact absurd rfl real

/-- The digits of an exponent: at least two. -/
def paddedDigits (n : Nat) : List Char :=
  if (digitsOf n).length < 2 then '0' :: digitsOf n else digitsOf n

theorem digits_paddedDigits (n : Nat) : Digits (paddedDigits n) := by
  unfold paddedDigits
  split
  · exact ⟨List.cons_ne_nil _ _, List.forall_mem_cons.mpr ⟨by decide, isAsciiDigit_digitsOf n⟩⟩
  · exact digits_digitsOf n

theorem asciiDigitsValue_paddedDigits (n : Nat) : asciiDigitsValue (paddedDigits n) = n := by
  unfold paddedDigits
  split
  · exact (asciiDigitsValue_zeros_append 1 (digitsOf n)).trans (asciiDigitsValue_digitsOf n)
  · exact asciiDigitsValue_digitsOf n

/-- The exponent of the leading digit of a decimal. -/
def leading (d : Decimal) : Int := d.exponent + (digitsOf d.digits).length - 1

/-- The numeral as which a decimal is laid out. -/
def ofDecimal (negative : Bool) (d : Decimal) : Numeral :=
  let digits := digitsOf d.digits
  if leading d < -4 ∨ 16 ≤ leading d then
    ⟨negative, digits.take 1, if digits.length ≤ 1 then none else some (digits.drop 1),
      some (decide (leading d < 0), paddedDigits (leading d).natAbs)⟩
  else if leading d < 0 then
    ⟨negative, ['0'], some (List.replicate (-leading d - 1).toNat '0' ++ digits), none⟩
  else
    let whole := (leading d).toNat + 1
    if digits.length ≤ whole then
      ⟨negative, digits ++ List.replicate (whole - digits.length) '0', some ['0'], none⟩
    else
      ⟨negative, digits.take whole, some (digits.drop whole), none⟩

theorem negative_ofDecimal (negative : Bool) (d : Decimal) :
    (ofDecimal negative d).negative = negative := by
  simp only [ofDecimal, apply_ite Numeral.negative, ite_self]

/-- The numeral of a decimal has a fraction or an exponent. -/
theorem real_ofDecimal (negative : Bool) (d : Decimal) :
    (ofDecimal negative d).fraction ≠ none ∨ (ofDecimal negative d).exponent ≠ none := by
  unfold ofDecimal
  split
  · exact .inr nofun
  · split
    · exact .inl nofun
    · simp only
      split <;> exact .inl nofun

/-- **The layout of a decimal is its numeral.** -/
theorem layout_eq (negative : Bool) (d : Decimal) :
    layout (digitsOf d.digits) (leading d) = (ofDecimal negative d).unsigned := by
  obtain ⟨c, rest, split⟩ := List.exists_cons_of_ne_nil (digitsOf_ne_nil d.digits)
  have exponent : ∀ e : Int, NumeralStyle.exponentText e =
      (if decide (e < 0) then '-' else '+') :: paddedDigits e.natAbs := by
    intro e
    simp [NumeralStyle.exponentText, paddedDigits]
  unfold layout ofDecimal
  split
  · rw [exponent, split]
    cases rest with
    | nil => rfl
    | cons next rest => simp [unsigned, fractionText, exponentText]
  · split
    · simp [unsigned, fractionText, exponentText]
    · simp only
      split
      · simp [unsigned, fractionText, exponentText]
      · simp [unsigned, fractionText, exponentText]

theorem digits_take {cs : List Char} (digits : Digits cs) {k : Nat} (some : 0 < k) :
    Digits (cs.take k) := by
  refine ⟨fun none => ?_, fun c mem => digits.all c (List.mem_of_mem_take mem)⟩
  rcases List.take_eq_nil_iff.mp none with zero | none
  · omega
  · exact digits.nonempty none

theorem digits_drop {cs : List Char} (digits : Digits cs) {k : Nat} (more : k < cs.length) :
    Digits (cs.drop k) :=
  ⟨fun none => absurd (List.drop_eq_nil_iff.mp none) (Nat.not_le.mpr more),
    fun c mem => digits.all c (List.mem_of_mem_drop mem)⟩

theorem digits_zero : Digits ['0'] := ⟨nofun, by simp [isAsciiDigit]⟩

theorem proper_zero (negative : Bool) : Proper ⟨negative, ['0'], some ['0'], none⟩ where
  whole := digits_zero
  plain := .inl rfl
  fraction := by
    rintro _ ⟨⟩
    exact digits_zero
  exponent := nofun

theorem isAsciiDigit_zeros (k : Nat) : ∀ c ∈ List.replicate k '0', isAsciiDigit c = true := by
  intro c mem
  rw [List.eq_of_mem_replicate mem]
  rfl

/-- The numeral of a decimal can be spelled. -/
theorem proper_ofDecimal (negative : Bool) (nonzero : d.digits ≠ 0) :
    (ofDecimal negative d).Proper := by
  have digits := digits_digitsOf d.digits
  obtain ⟨c, rest, split⟩ := List.exists_cons_of_ne_nil digits.nonempty
  have first : c ≠ '0' := head_digitsOf nonzero split
  have plain : ∀ cs : List Char, cs.head? = some c → cs = ['0'] ∨ cs.head? ≠ some '0' := by
    intro cs head
    rw [head]
    exact .inr fun same => first (Option.some.inj same)
  unfold ofDecimal
  split
  · refine ⟨digits_take digits (by decide), plain _ (by rw [split]; rfl), ?_, ?_⟩
    · intro fraction mem
      simp only at mem
      split at mem
      · contradiction
      · obtain rfl := Option.some.inj mem
        exact digits_drop digits (by omega)
    · intro exponent mem
      obtain rfl := Option.some.inj mem
      exact digits_paddedDigits _
  · split
    · refine ⟨digits_zero, .inl rfl, ?_, nofun⟩
      intro fraction mem
      obtain rfl := Option.some.inj mem
      exact ⟨by simp [digits.nonempty],
        List.forall_mem_append.mpr ⟨isAsciiDigit_zeros _, digits.all⟩⟩
    · simp only
      split
      · refine ⟨⟨by simp [digits.nonempty],
          List.forall_mem_append.mpr ⟨digits.all, isAsciiDigit_zeros _⟩⟩,
          plain _ (by rw [split]; rfl), ?_, nofun⟩
        intro fraction mem
        obtain rfl := Option.some.inj mem
        exact digits_zero
      · rename_i more
        refine ⟨digits_take digits (Nat.succ_pos _), plain _ (by rw [split]; rfl), ?_, nofun⟩
        intro fraction mem
        obtain rfl := Option.some.inj mem
        exact digits_drop digits (Nat.not_le.mp more)

theorem applySign_natAbs (n : Int) : Literal.applySign (decide (n < 0)) n.natAbs = n := by
  unfold Literal.applySign
  simp only [decide_eq_true_eq]
  split <;> omega

/-- Ten times as many digits behind a point are the same number. -/
theorem numerator_of_shifted (digits k : Nat) :
    Decimal.numerator ⟨10 * (Nat.pow 10 k * digits), -1⟩ * Decimal.denominator ⟨digits, k⟩ =
      Decimal.numerator ⟨digits, k⟩ *
        Decimal.denominator ⟨10 * (Nat.pow 10 k * digits), -1⟩ := by
  have whole : (k : Int).toNat = k := rfl
  have none : (-(k : Int)).toNat = 0 := by omega
  have none' : (-1 : Int).toNat = 0 := rfl
  have one : (- -1 : Int).toNat = 1 := rfl
  have ten : Nat.pow 10 1 = 10 := rfl
  have unit : Nat.pow 10 0 = 1 := rfl
  unfold Decimal.numerator Decimal.denominator
  rw [whole, none, none', one, ten, unit]
  ring

/-- **The numeral of a decimal spells its value.** -/
theorem decimal_ofDecimal (negative : Bool) (d : Decimal) :
    (ofDecimal negative d).decimal.numerator * d.denominator =
      d.numerator * (ofDecimal negative d).decimal.denominator := by
  have value := asciiDigitsValue_digitsOf d.digits
  have place : leading d = d.exponent + (digitsOf d.digits).length - 1 := rfl
  have nonempty := List.length_pos_iff.mpr (digitsOf_ne_nil d.digits)
  -- But for the zeros of an integer, the numeral has the very digits of the decimal.
  have same : ∀ n : Numeral, asciiDigitsValue (n.whole ++ n.fraction.getD []) = d.digits →
      n.decimal.exponent = d.exponent →
      n.decimal.numerator * d.denominator = d.numerator * n.decimal.denominator := by
    intro n digits exponent
    have equal : n.decimal = d := by
      obtain ⟨_, _⟩ := d
      exact congrArg₂ Decimal.mk digits exponent
    rw [equal]
  unfold ofDecimal
  split
  · have fraction : (if (digitsOf d.digits).length ≤ 1 then none
        else some ((digitsOf d.digits).drop 1)).getD [] = (digitsOf d.digits).drop 1 := by
      split
      · rename_i single
        exact (List.drop_eq_nil_of_le single).symm
      · rfl
    apply same
    · rw [fraction, List.take_append_drop, value]
    · simp only [decimal, fraction, asciiDigitsValue_paddedDigits, applySign_natAbs,
        List.length_drop]
      omega
  · split
    · apply same
      · exact (asciiDigitsValue_zeros_append ((-leading d - 1).toNat + 1) _).trans value
      · simp only [decimal, Option.getD_some, List.length_append, List.length_replicate]
        omega
    · simp only
      split
      · obtain ⟨digits, exponent⟩ := d
        obtain ⟨k, rfl⟩ : ∃ k : Nat, exponent = k := ⟨exponent.toNat, by simp only at *; omega⟩
        have zeros : (leading ⟨digits, k⟩).toNat + 1 - (digitsOf digits).length = k := by
          simp only at place
          omega
        have shifted : asciiDigitsValue (digitsOf digits ++ List.replicate k '0' ++ ['0']) =
            10 * (Nat.pow 10 k * digits) := by
          have last : ['0'] = List.replicate 1 '0' := rfl
          rw [last, asciiDigitsValue_append_zeros, asciiDigitsValue_append_zeros, value]
        simp only [decimal, zeros, Option.getD_some, shifted]
        exact numerator_of_shifted digits k
      · apply same
        · rw [Option.getD_some, List.take_append_drop, value]
        · simp only [decimal, Option.getD_some, List.length_drop]
          omega

end Numeral

/-- The numeral of a finite double. -/
def Numeral.ofUnits (negative : Bool) (units : Nat) : Numeral :=
  if units = 0 then ⟨negative, ['0'], some ['0'], none⟩
  else .ofDecimal negative (.shortest units)

/-- A finite double is rendered as its numeral, whatever the words for the others are. -/
theorem render_finite (style : NumeralStyle) (negative : Bool) (units : Nat)
    (fits : FitsBinary64 units) :
    (style.render (.finite negative units fits)).toList =
      (Numeral.ofUnits negative units).spelled := by
  have sign : (Numeral.ofUnits negative units).negative = negative := by
    simp only [Numeral.ofUnits, apply_ite Numeral.negative, Numeral.negative_ofDecimal, ite_self]
  have body : (if units = 0 then ['0', '.', '0']
      else NumeralStyle.layout (NumeralStyle.digitsOf (Decimal.shortest units).digits)
        ((Decimal.shortest units).exponent +
          (NumeralStyle.digitsOf (Decimal.shortest units).digits).length - 1)) =
      (Numeral.ofUnits negative units).unsigned := by
    unfold Numeral.ofUnits
    split
    · rfl
    · exact Numeral.layout_eq negative _
  rw [NumeralStyle.render, String.toList_ofList, Numeral.spelled, sign]
  simp only [body]

theorem proper_ofUnits (negative : Bool) {units : Nat} (fits : FitsBinary64 units) :
    (Numeral.ofUnits negative units).Proper := by
  unfold Numeral.ofUnits
  split
  · exact Numeral.proper_zero negative
  · rename_i nonzero
    exact Numeral.proper_ofDecimal negative
      (Decimal.digits_shortest_ne_zero (Nat.pos_of_ne_zero nonzero) fits)

/-- **The numeral of a double spells the double.** -/
theorem number_ofUnits (negative : Bool) {units : Nat} (fits : FitsBinary64 units) :
    (Numeral.ofUnits negative units).number = .ok (.double (.finite negative units fits)) := by
  unfold Numeral.ofUnits
  split
  · rename_i zero
    subst zero
    rfl
  · rename_i nonzero
    rw [Numeral.number_eq (Numeral.real_ofDecimal negative _), Numeral.negative_ofDecimal,
      Decimal.toBinary64_of_same negative (Nat.pos_of_ne_zero nonzero) fits
        (Numeral.decimal_ofDecimal negative _)]

theorem scalar_render (x : Binary64) (parted : Parted rest) :
    scalar ((numeralStyle.render x).toList ++ rest) = .ok (.number (.double x), rest) := by
  cases x with
  | nan => exact scalar_word "NaN" (by simp [words]) rest
  | infinite negative =>
    cases negative with
    | false => exact scalar_word "Infinity" (by simp [words]) rest
    | true => exact scalar_word "-Infinity" (by simp [words]) rest
  | finite negative units fits =>
    rw [render_finite]
    exact scalar_spelled (proper_ofUnits negative fits) parted (number_ofUnits negative fits)

/-! ## 6. Numbers -/

/-- The text of a number in JSON is read as the number. -/
theorem scalar_renderNumber {n : Number} {text : String} (written : renderNumber n = .ok text)
    (parted : Parted rest) : scalar (text.toList ++ rest) = .ok (.number n, rest) := by
  unfold renderNumber at written
  split at written
  · contradiction
  · rename_i fits
    cases n with
    | int n =>
      cases written
      rw [toList_toString_int]
      exact scalar_spelled (proper_ofInt n) parted (number_ofInt (by simpa using fits))
    | double x =>
      cases written
      exact scalar_render x parted

end Json
end Gamebook

/-
# Numbers that are shown and read again

A number is shown by one piece of the program and read by another one, whose grammar knows more than
what is ever shown: signs, blanks, capital marks, words.  This file settles that nothing is lost on
the way: what is shown of a number is read as that number, and an integer stays an integer and a
double a double (`Number.ofText?_shown`).

* **Spelling.**  Integers and finite doubles are shown as numerals in their parts; the reader takes
  the same parts apart (`unsignedDecimal?_unsigned`).
* **Kinds.**  An integer is a numeral without a point and without an exponent, and nothing else is
  read as one (`asciiInteger?_of_real`).
* **Refusals.**  An integer with too many digits is not shown, and NaN is not read.
-/
import Gamebook.Datum.Printer
import Gamebook.Proofs.Json.Numerals
import Gamebook.Proofs.Number.Integers

namespace Gamebook

open Text Literal

namespace Json

variable {n : Numeral} {cs rest : List Char}

/-! ## 1. Characters of numerals -/

/-- A character that is read as it stands: it is no blank, no underscore, and not beyond ASCII. -/
def PlainChar (c : Char) : Prop := isBlank c = false ∧ c ≠ '_' ∧ c.toNat ≤ 127

instance (c : Char) : Decidable (PlainChar c) :=
  inferInstanceAs (Decidable (isBlank c = false ∧ c ≠ '_' ∧ c.toNat ≤ 127))

theorem toNat_of_isAsciiDigit {c : Char} (digit : isAsciiDigit c = true) :
    48 ≤ c.toNat ∧ c.toNat ≤ 57 := by
  simp only [isAsciiDigit, Bool.and_eq_true, decide_eq_true_eq, Char.le_def] at digit
  exact ⟨UInt32.le_iff_toNat_le.mp digit.1, UInt32.le_iff_toNat_le.mp digit.2⟩

theorem plainChar_of_digit {c : Char} (digit : isAsciiDigit c = true) : PlainChar c := by
  obtain ⟨low, high⟩ := toNat_of_isAsciiDigit digit
  refine ⟨?_, ?_, by omega⟩
  · simp only [isBlank, CodeRange.covers, blankTable, List.any_cons, List.any_nil]
    simp
    omega
  · rintro rfl
    contradiction

theorem plainChar_spelled (proper : n.Proper) : ∀ c ∈ n.spelled, PlainChar c :=
  forall_spelled proper (fun _ => plainChar_of_digit) (by decide)

/-! ## 2. Numerals in their parts -/

/-- A numeral begins with a digit, behind its sign. -/
theorem exists_unsigned_eq_cons (proper : n.Proper) :
    ∃ c rest, n.unsigned = c :: rest ∧ isAsciiDigit c = true := by
  obtain ⟨c, whole, split⟩ := List.exists_cons_of_ne_nil proper.whole.nonempty
  refine ⟨c, whole ++ (Numeral.fractionText n.fraction ++ Numeral.exponentText n.exponent), ?_,
    proper.whole.all c (by simp [split])⟩
  rw [Numeral.unsigned, split]
  rfl

/-- No digit is a sign. -/
theorem splitSign_of_digit {c : Char} (digit : isAsciiDigit c = true) (rest : List Char) :
    splitSign (c :: rest) = (false, c :: rest) := by
  unfold splitSign
  split
  · rename_i same
    obtain ⟨rfl, -⟩ := List.cons.inj same
    contradiction
  · rename_i same
    obtain ⟨rfl, -⟩ := List.cons.inj same
    contradiction
  · rfl

theorem splitSign_spelled (proper : n.Proper) :
    splitSign n.spelled = (n.negative, n.unsigned) := by
  unfold Numeral.spelled
  cases n.negative with
  | true => rfl
  | false =>
    obtain ⟨c, rest, split, digit⟩ := exists_unsigned_eq_cons proper
    rw [if_neg Bool.false_ne_true, split]
    exact splitSign_of_digit digit rest

theorem integerParts?_of_digits {cs : List Char} {negative : Bool} {digits : List Char}
    (sign : splitSign cs = (negative, digits)) (proper : Digits digits) :
    integerParts? cs = some (negative, digits) := by
  have all : digits.all isAsciiDigit = true := List.all_eq_true.mpr proper.all
  simp [integerParts?, sign, all, proper.nonempty]

theorem exponentPart?_exponentText {exponent : Option (Bool × List Char)}
    (proper : ∀ e ∈ exponent, Digits e.2) :
    exponentPart? (Numeral.exponentText exponent) =
      some ((exponent.map fun (negative, digits) =>
        applySign negative (asciiDigitsValue digits)).getD 0) := by
  cases exponent with
  | none => rfl
  | some exponent =>
    obtain ⟨negative, digits⟩ := exponent
    have sign : splitSign ((if negative then '-' else '+') :: digits) = (negative, digits) := by
      cases negative <;> rfl
    simp [Numeral.exponentText, exponentPart?, integerParts?_of_digits sign (proper _ rfl)]

theorem decimal_eq (n : Numeral) :
    n.decimal = ⟨asciiDigitsValue (n.whole ++ n.fraction.getD []),
      (n.exponent.map fun (negative, digits) =>
        applySign negative (asciiDigitsValue digits)).getD 0 - (n.fraction.getD []).length⟩ := by
  unfold Numeral.decimal
  cases n.exponent <;> rfl

/-- **A numeral is taken apart as it is spelled.** -/
theorem unsignedDecimal?_unsigned (proper : n.Proper) :
    unsignedDecimal? n.unsigned = some n.decimal := by
  have parted : Parted [] := nofun
  have afterFraction : ∀ c ∈ (Numeral.exponentText n.exponent).head?,
      isAsciiDigit c = false ∧ c ≠ '.' := by
    simpa using head_exponentText n.exponent parted
  have afterWhole := head_fractionText n.fraction afterFraction
  have whole := spanDigits_append proper.whole.all afterWhole
  obtain ⟨taken, dropped⟩ := Prod.mk.inj whole
  have some : n.whole.isEmpty = false := by simpa using proper.whole.nonempty
  have exponent := exponentPart?_exponentText proper.exponent
  rw [decimal_eq]
  unfold unsignedDecimal? Numeral.unsigned
  simp only [taken, dropped, some]
  cases h : n.fraction with
  | none =>
    have rest : Numeral.fractionText none ++ Numeral.exponentText n.exponent =
        Numeral.exponentText n.exponent := rfl
    rw [rest]
    split
    · rename_i more point
      exact absurd rfl (afterFraction '.' (by rw [point]; rfl)).2
    · simp [exponent]
  | some digits =>
    have fraction := spanDigits_append (proper.fraction digits h).all
      fun c mem => (afterFraction c mem).1
    obtain ⟨taken', dropped'⟩ := Prod.mk.inj fraction
    simp [Numeral.fractionText, taken', dropped', exponent]

/-! ## 3. Integers and doubles -/

/-- An integer is read as it is spelled. -/
theorem asciiInteger?_ofInt {k : Int} (short : (Number.int k).isOverlong = false) :
    asciiInteger? (Numeral.ofInt k).spelled = some k := by
  have proper := proper_ofInt k
  have whole : (Numeral.ofInt k).unsigned = NumeralStyle.digitsOf k.natAbs := List.append_nil _
  have parts : integerParts? (Numeral.ofInt k).spelled =
      some (decide (k < 0), NumeralStyle.digitsOf k.natAbs) := by
    refine integerParts?_of_digits ?_ (digits_digitsOf k.natAbs)
    rw [splitSign_spelled proper, whole]
    rfl
  have number := number_ofInt short
  simp only [Numeral.number, Numeral.ofInt] at number
  simp only [asciiInteger?, parts, Option.bind_some]
  cases read : integerOf (decide (k < 0)) (NumeralStyle.digitsOf k.natAbs) with
  | error fault =>
    rw [read] at number
    cases number
  | ok value =>
    rw [read] at number
    obtain rfl : value = k := by simpa using number
    rfl

/-- **A numeral with a fraction or an exponent is no integer.** -/
theorem asciiInteger?_of_real (proper : n.Proper)
    (real : n.fraction ≠ none ∨ n.exponent ≠ none) : asciiInteger? n.spelled = none := by
  have mark : ∃ c ∈ n.unsigned, isAsciiDigit c = false := by
    unfold Numeral.unsigned
    rcases real with real | real
    · obtain ⟨digits, fraction⟩ := Option.ne_none_iff_exists'.mp real
      exact ⟨'.', by simp [fraction, Numeral.fractionText], by decide⟩
    · obtain ⟨digits, exponent⟩ := Option.ne_none_iff_exists'.mp real
      exact ⟨'e', by simp [exponent, Numeral.exponentText], by decide⟩
  have mixed : n.unsigned.all isAsciiDigit = false := by
    obtain ⟨c, mem, other⟩ := mark
    exact List.all_eq_false.mpr ⟨c, mem, by simp [other]⟩
  have parts : integerParts? n.spelled = none := by
    simp [integerParts?, splitSign_spelled proper, mixed]
  rw [asciiInteger?, parts]
  rfl

/-- No numeral is one of the words for infinity and for the number that is none. -/
theorem word_of_unsigned (proper : n.Proper) (word : String) {c : Char}
    (first : word.toList.head? = some c) (other : isAsciiDigit c = false) :
    String.ofList (n.unsigned.map Char.toLower) ≠ word := by
  rintro rfl
  obtain ⟨d, rest, split, digit⟩ := exists_unsigned_eq_cons proper
  have small : d.toLower = d := by
    have := toNat_of_isAsciiDigit digit
    unfold Char.toLower
    rw [dif_neg]
    rintro ⟨low, -⟩
    have low : 65 ≤ d.toNat := UInt32.le_iff_toNat_le.mp low
    omega
  rw [String.toList_ofList, split, List.map_cons, small] at first
  obtain rfl : d = c := Option.some.inj first
  rw [digit] at other
  contradiction

/-- **A numeral is read as the double nearest to it.** -/
theorem asciiDouble?_spelled (proper : n.Proper) :
    asciiDouble? n.spelled = some (Decimal.toBinary64 n.negative n.decimal) := by
  have inf := word_of_unsigned proper "inf" rfl (by decide)
  have infinity := word_of_unsigned proper "infinity" rfl (by decide)
  have nan := word_of_unsigned proper "nan" rfl (by decide)
  simp only [asciiDouble?, splitSign_spelled proper, inf, infinity, nan, or_self, if_false,
    unsignedDecimal?_unsigned proper, Option.map_some]

theorem real_ofUnits (negative : Bool) (units : Nat) :
    (Numeral.ofUnits negative units).fraction ≠ none ∨
      (Numeral.ofUnits negative units).exponent ≠ none := by
  unfold Numeral.ofUnits
  split
  · exact .inl nofun
  · exact Numeral.real_ofDecimal negative _

theorem asciiDouble?_ofUnits (negative : Bool) {units : Nat} (fits : FitsBinary64 units) :
    asciiDouble? (Numeral.ofUnits negative units).spelled =
      some (.finite negative units fits) := by
  have number := number_ofUnits negative fits
  rw [Numeral.number_eq (real_ofUnits negative units)] at number
  rw [asciiDouble?_spelled (proper_ofUnits negative fits)]
  simpa using number

end Json

/-! ## 4. What is shown is read -/

namespace Number

open Json

variable {cs : List Char}

/-- Characters that are read as they stand are neither stripped nor refused. -/
theorem ofText?_ofChars (plain : ∀ c ∈ cs, PlainChar c) :
    (strip (ofChars cs)).toChars = cs ∧
      cs.any (fun c => c = '_' || 127 < c.toNat) = false := by
  have bare : strip (ofChars cs) = ofChars cs := by
    refine stripWhile_eq_self fun letter mem => ?_
    obtain ⟨c, among, rfl⟩ := List.mem_map.mp mem
    exact (plain c among).1
  refine ⟨by rw [bare, toChars_ofChars], ?_⟩
  refine List.any_eq_false.mpr fun c mem => ?_
  obtain ⟨-, other, ascii⟩ := plain c mem
  simp [other, ascii]

theorem ofText?_of_integer (plain : ∀ c ∈ cs, PlainChar c) {n : Int}
    (read : asciiInteger? cs = some n) : ofText? (ofChars cs) = some (.int n) := by
  have nonempty : cs ≠ [] := by
    rintro rfl
    cases read
  obtain ⟨bare, known⟩ := ofText?_ofChars plain
  unfold ofText?
  simp [bare, nonempty, known, read]

theorem ofText?_of_double (plain : ∀ c ∈ cs, PlainChar c) (none : asciiInteger? cs = none)
    {x : Binary64} (read : asciiDouble? cs = some x) (number : x.isNaN = false) :
    ofText? (ofChars cs) = some (.double x) := by
  have nonempty : cs ≠ [] := by
    rintro rfl
    cases read
  obtain ⟨bare, known⟩ := ofText?_ofChars plain
  unfold ofText?
  simp only [bare, List.isEmpty_eq_false_iff.mpr nonempty, known, none, read]
  cases x with
  | nan => contradiction
  | finite negative units fits | infinite negative => rfl

/-- **What is shown of a number is read as that number**, its kind included, unless it is an integer
with too many digits or NaN. -/
theorem ofText?_shown {n : Number} (short : n.isOverlong = false) (number : n.isNaN = false) :
    ofText? (ofString n.shown) = some n := by
  unfold ofString
  cases n with
  | int n =>
    rw [shown, toList_toString_int]
    exact ofText?_of_integer (plainChar_spelled (proper_ofInt n)) (asciiInteger?_ofInt short)
  | double x =>
    rw [shown]
    cases x with
    | nan => contradiction
    | infinite negative => cases negative <;> decide +kernel
    | finite negative units fits =>
      have proper := proper_ofUnits negative fits
      have real := real_ofUnits negative units
      rw [render_finite]
      exact ofText?_of_double (plainChar_spelled proper) (asciiInteger?_of_real proper real)
        (asciiDouble?_ofUnits negative fits) rfl

end Number
end Gamebook

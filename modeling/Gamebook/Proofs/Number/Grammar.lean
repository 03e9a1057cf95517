/-
# The grammar of numbers

A number is written as an integer literal or as the literal of a double.  Here both are given by
rules (`IntegerText`, `DoubleText`), which say what is written and what it denotes, and not how it
is read.

* **Pieces.**  Every reader of a piece accepts what a rule allows and nothing else
  (`integerParts?_eq_some_iff`, `exponentPart?_eq_some_iff`, `unsignedDecimal?_eq_some_iff`).
* **Literals.**  So do the readers of integers and doubles (`asciiInteger?_eq_some_iff`,
  `asciiDouble?_eq_some_iff`).
* **Texts.**  A text denotes a number if, without the blanks around it, it is empty or a literal
  (`Denotes`).  Integers go first, unless they have more than 4300 digits; then they are literals of
  doubles like others.  In every other case reading gives what was to be given instead
  (`readsNumbers`).
-/
import Gamebook.Proofs.Number.Literals
import Gamebook.Proofs.Variable.Composition
import Gamebook.Proofs.Variable.Evaluation

namespace Gamebook

open Text

namespace Literal

open Json (Digits)

/-! ## 1. Rules -/

/-- A sign or none; true for a minus. -/
inductive SignText : List Char → Bool → Prop
  | none : SignText [] false
  | plus : SignText ['+'] false
  | minus : SignText ['-'] true

/-- **An integer literal**, how many digits it has, and the integer: a sign or none, and digits. -/
inductive IntegerText : List Char → Nat → Int → Prop
  | mk {sign digits : List Char} {negative : Bool} (signed : SignText sign negative)
      (proper : Digits digits) :
      IntegerText (sign ++ digits) digits.length
        (applySign negative (Nat.ofDigitChars 10 digits 0))

/-- An exponent or none: a mark, and an integer literal. -/
inductive ExponentText : List Char → Int → Prop
  | none : ExponentText [] 0
  | marked {mark : Char} {cs : List Char} {count : Nat} {n : Int} (small : mark = 'e' ∨ mark = 'E')
      (written : IntegerText cs count n) : ExponentText (mark :: cs) n

/-- Digits with a point among them, in front of them, behind them or without one; all the digits,
and how many stand behind the point. -/
inductive MantissaText : List Char → List Char → Nat → Prop
  | whole {digits : List Char} (proper : Digits digits) : MantissaText digits digits 0
  | pointed {whole fraction : List Char} (proper : Digits (whole ++ fraction)) :
      MantissaText (whole ++ '.' :: fraction) (whole ++ fraction) fraction.length

/-- A word in any case. -/
def InAnyCase (word : String) (cs : List Char) : Prop := String.ofList (cs.map Char.toLower) = word

/-- **The literal of a double**, and the double: a decimal numeral, for which the double nearest to
it stands, or a word for infinity in any case. -/
inductive DoubleText : List Char → Binary64 → Prop
  | decimal {sign mantissa digits exponent : List Char} {negative : Bool} {places : Nat} {n : Int}
      (signed : SignText sign negative) (leading : MantissaText mantissa digits places)
      (scaled : ExponentText exponent n) :
      DoubleText (sign ++ (mantissa ++ exponent))
        (Decimal.toBinary64 negative ⟨Nat.ofDigitChars 10 digits 0, n - places⟩)
  | infinity {sign word : List Char} {negative : Bool} (signed : SignText sign negative)
      (named : InAnyCase "inf" word ∨ InAnyCase "infinity" word) :
      DoubleText (sign ++ word) (.infinite negative)

variable {cs rest sign digits : List Char} {negative : Bool} {count : Nat} {n : Int}

/-! ## 2. Signs and digits -/

/-- What is split off is a sign. -/
theorem signText_splitSign (cs : List Char) :
    ∃ sign, SignText sign (splitSign cs).1 ∧ cs = sign ++ (splitSign cs).2 := by
  unfold splitSign
  split
  · exact ⟨['+'], .plus, rfl⟩
  · exact ⟨['-'], .minus, rfl⟩
  · exact ⟨[], .none, rfl⟩

/-- A sign is split off, unless another one follows. -/
theorem splitSign_append (signed : SignText sign negative)
    (bare : ∀ c ∈ rest.head?, c ≠ '+' ∧ c ≠ '-') : splitSign (sign ++ rest) = (negative, rest) := by
  cases signed with
  | plus => rfl
  | minus => rfl
  | none =>
    rw [List.nil_append]
    unfold splitSign
    split
    · exact absurd rfl (bare '+' rfl).1
    · exact absurd rfl (bare '-' rfl).2
    · rfl

/-- **Exactly a sign and digits are taken apart.** -/
theorem integerParts?_eq_some_iff :
    integerParts? cs = some (negative, digits) ↔
      Digits digits ∧ ∃ sign, SignText sign negative ∧ cs = sign ++ digits := by
  constructor
  · intro read
    obtain ⟨sign, signed, split⟩ := signText_splitSign cs
    unfold integerParts? at read
    simp only [Option.ite_none_left_eq_some, Bool.or_eq_true, Bool.not_eq_true', not_or,
      Bool.not_eq_true, Bool.not_eq_false, Option.some.injEq] at read
    obtain ⟨⟨nonempty, all⟩, same⟩ := read
    obtain ⟨rfl, rfl⟩ := Prod.mk.inj same
    exact ⟨⟨List.isEmpty_eq_false_iff.mp nonempty, List.all_eq_true.mp all⟩, sign, signed, split⟩
  · rintro ⟨proper, sign, signed, rfl⟩
    refine Json.integerParts?_of_digits (splitSign_append signed ?_) proper
    intro c first
    have digit := proper.all c (List.mem_of_mem_head? first)
    constructor <;> rintro rfl <;> contradiction

/-- **The reader of integers accepts exactly the integer literals with few enough digits.** -/
theorem asciiInteger?_eq_some_iff :
    asciiInteger? cs = some n ↔ ∃ count, IntegerText cs count n ∧ count ≤ digitLimit := by
  unfold asciiInteger?
  rw [Option.bind_eq_some_iff]
  constructor
  · rintro ⟨⟨negative, digits⟩, parts, read⟩
    obtain ⟨proper, sign, signed, rfl⟩ := integerParts?_eq_some_iff.mp parts
    simp only [integerOf] at read
    by_cases long : digitLimit < digits.length
    · rw [if_pos long] at read
      contradiction
    · rw [if_neg long] at read
      obtain rfl := Option.some.inj read
      exact ⟨_, .mk signed proper, Nat.not_lt.mp long⟩
  · rintro ⟨count, written, short⟩
    cases written with
    | @mk sign digits negative signed proper =>
      refine ⟨(negative, digits), integerParts?_eq_some_iff.mpr ⟨proper, sign, signed, rfl⟩, ?_⟩
      simp only [integerOf, if_neg (Nat.not_lt.mpr short)]
      rfl

/-! ## 3. Decimal numerals -/

/-- **The reader of exponents accepts exactly the exponents.** -/
theorem exponentPart?_eq_some_iff : exponentPart? cs = some n ↔ ExponentText cs n := by
  constructor
  · intro read
    cases cs with
    | nil =>
      obtain rfl := Option.some.inj read
      exact .none
    | cons mark rest =>
      rw [exponentPart?, Option.ite_none_right_eq_some, Option.map_eq_some_iff] at read
      obtain ⟨small, ⟨negative, digits⟩, parts, rfl⟩ := read
      obtain ⟨proper, sign, signed, rfl⟩ := integerParts?_eq_some_iff.mp parts
      exact .marked small (.mk signed proper)
  · intro written
    cases written with
    | none => rfl
    | @marked mark cs count n small written =>
      cases written with
      | @mk sign digits negative signed proper =>
        have parts := integerParts?_eq_some_iff.mpr ⟨proper, sign, signed, rfl⟩
        rw [exponentPart?, if_pos small, parts]
        rfl

/-- No exponent goes on with digits or a point. -/
theorem ExponentText.head (written : ExponentText cs n) :
    ∀ c ∈ cs.head?, isAsciiDigit c = false ∧ c ≠ '.' := by
  cases written with
  | none => nofun
  | marked small _ =>
    intro c first
    obtain rfl := Option.some.inj first
    rcases small with rfl | rfl <;> decide

section

variable {whole fraction : List Char}

/-- Digits without a point behind them. -/
theorem unsignedDecimal?_whole (digits : ∀ c ∈ whole, isAsciiDigit c = true)
    (stop : ∀ c ∈ rest.head?, isAsciiDigit c = false ∧ c ≠ '.') :
    unsignedDecimal? (whole ++ rest) =
      if whole = [] then none
      else (exponentPart? rest).map fun n => ⟨Nat.ofDigitChars 10 whole 0, n - (0 : Nat)⟩ := by
  obtain ⟨taken, dropped⟩ := span_append digits fun c first => (stop c first).1
  unfold unsignedDecimal?
  simp only [taken, dropped]
  split
  · rename_i point
    exact absurd rfl (stop '.' rfl).2
  · simp [asciiDigitsValue_eq]

/-- Digits around a point. -/
theorem unsignedDecimal?_pointed (before : ∀ c ∈ whole, isAsciiDigit c = true)
    (behind : ∀ c ∈ fraction, isAsciiDigit c = true)
    (stop : ∀ c ∈ rest.head?, isAsciiDigit c = false) :
    unsignedDecimal? (whole ++ '.' :: (fraction ++ rest)) =
      if whole ++ fraction = [] then none
      else (exponentPart? rest).map fun n =>
        ⟨Nat.ofDigitChars 10 (whole ++ fraction) 0, n - fraction.length⟩ := by
  have point : ∀ c ∈ ('.' :: (fraction ++ rest)).head?, isAsciiDigit c = false := by
    intro c first
    obtain rfl := Option.some.inj first
    decide
  obtain ⟨taken, dropped⟩ := span_append before point
  obtain ⟨taken', dropped'⟩ := span_append behind stop
  unfold unsignedDecimal?
  simp only [taken, dropped, taken', dropped']
  simp [asciiDigitsValue_eq]

/-- Every text begins with digits, which may have a point behind them and further digits. -/
theorem whole_or_pointed (cs : List Char) :
    (∃ whole rest, cs = whole ++ rest ∧ (∀ c ∈ whole, isAsciiDigit c = true) ∧
      ∀ c ∈ rest.head?, isAsciiDigit c = false ∧ c ≠ '.') ∨
    ∃ whole fraction rest, cs = whole ++ '.' :: (fraction ++ rest) ∧
      (∀ c ∈ whole, isAsciiDigit c = true) ∧ (∀ c ∈ fraction, isAsciiDigit c = true) ∧
        ∀ c ∈ rest.head?, isAsciiDigit c = false := by
  have spans (cs : List Char) : ∃ whole rest, cs = whole ++ rest ∧
      (∀ c ∈ whole, isAsciiDigit c = true) ∧ ∀ c ∈ rest.head?, isAsciiDigit c = false := by
    refine ⟨_, _, List.takeWhile_append_dropWhile.symm, fun c => List.mem_takeWhile_imp, ?_⟩
    intro c first
    have kept := List.head?_dropWhile_not isAsciiDigit cs
    rw [first] at kept
    exact kept
  obtain ⟨whole, after, rfl, digits, stop⟩ := spans cs
  by_cases point : '.' ∈ after.head?
  · obtain ⟨more, rfl⟩ := List.head?_eq_some_iff.mp point
    obtain ⟨fraction, rest, rfl, digits', stop'⟩ := spans more
    exact .inr ⟨whole, fraction, rest, rfl, digits, digits', stop'⟩
  · refine .inl ⟨whole, after, rfl, digits, fun c first => ⟨stop c first, ?_⟩⟩
    rintro rfl
    exact point first

end

/-- **The reader of decimal numerals accepts exactly a mantissa with an exponent.** -/
theorem unsignedDecimal?_eq_some_iff {d : Decimal} :
    unsignedDecimal? cs = some d ↔
      ∃ mantissa digits places exponent n, MantissaText mantissa digits places ∧
        ExponentText exponent n ∧ cs = mantissa ++ exponent ∧
          d = ⟨Nat.ofDigitChars 10 digits 0, n - (places : Nat)⟩ := by
  constructor
  · intro read
    rcases whole_or_pointed cs with
      ⟨whole, rest, rfl, digits, stop⟩ | ⟨whole, fraction, rest, rfl, before, behind, stop⟩
    · rw [unsignedDecimal?_whole digits stop, Option.ite_none_left_eq_some,
        Option.map_eq_some_iff] at read
      obtain ⟨nonempty, n, scaled, rfl⟩ := read
      exact ⟨whole, whole, 0, rest, n, .whole ⟨nonempty, digits⟩,
        exponentPart?_eq_some_iff.mp scaled, rfl, rfl⟩
    · rw [unsignedDecimal?_pointed before behind stop, Option.ite_none_left_eq_some,
        Option.map_eq_some_iff] at read
      obtain ⟨nonempty, n, scaled, rfl⟩ := read
      have proper : Digits (whole ++ fraction) :=
        ⟨nonempty, List.forall_mem_append.mpr ⟨before, behind⟩⟩
      exact ⟨_, _, _, rest, n, .pointed proper, exponentPart?_eq_some_iff.mp scaled, by simp, rfl⟩
  · rintro ⟨mantissa, digits, places, exponent, n, leading, scaled, rfl, rfl⟩
    have read := exponentPart?_eq_some_iff.mpr scaled
    cases leading with
    | whole proper =>
      rw [unsignedDecimal?_whole proper.all scaled.head, if_neg proper.nonempty, read]
      rfl
    | pointed proper =>
      obtain ⟨before, behind⟩ := List.forall_mem_append.mp proper.all
      rw [List.append_assoc, List.cons_append,
        unsignedDecimal?_pointed before behind fun c first => (scaled.head c first).1,
        if_neg proper.nonempty, read]
      rfl

/-! ## 4. Doubles -/

/-- Characters in front of the capital letters have no other case. -/
theorem toLower_of_lt {c : Char} (small : c.toNat < 65) : c.toLower = c := by
  unfold Char.toLower
  rw [dif_neg]
  rintro ⟨low, -⟩
  have low : 65 ≤ c.toNat := UInt32.le_iff_toNat_le.mp low
  omega

theorem InAnyCase.head {word : String} (same : InAnyCase word cs) (c : Char)
    (first : c ∈ cs.head?) : c.toLower ∈ word.toList.head? := by
  rw [← same, String.toList_ofList, List.head?_map]
  exact Option.mem_map_of_mem _ first

/-- What begins in front of the capital letters is no word. -/
theorem not_inAnyCase {word : String} {c letter : Char} (small : c.toNat < 65)
    (begins : word.toList.head? = some letter) (large : 65 ≤ letter.toNat) :
    ¬ InAnyCase word (c :: cs) := by
  intro same
  have first := same.head c rfl
  rw [toLower_of_lt small] at first
  obtain rfl := Option.some.inj (begins.symm.trans first)
  omega

/-- A sign is split off from a word. -/
theorem splitSign_word {word : String} {letter : Char} (signed : SignText sign negative)
    (named : InAnyCase word cs) (begins : word.toList.head? = some letter)
    (other : letter ≠ '+' ∧ letter ≠ '-') : splitSign (sign ++ cs) = (negative, cs) := by
  refine splitSign_append signed fun c first => ?_
  have same : letter = c.toLower := Option.some.inj (begins.symm.trans (named.head c first))
  constructor
  · rintro rfl
    exact other.1 same
  · rintro rfl
    exact other.2 same

/-- A mantissa begins with a digit or with a point. -/
theorem MantissaText.head {mantissa : List Char} {places : Nat}
    (leading : MantissaText mantissa digits places) :
    ∃ c more, mantissa = c :: more ∧ c ≠ '+' ∧ c ≠ '-' ∧ c.toNat < 65 := by
  have digit {c : Char} (digit : isAsciiDigit c = true) : c ≠ '+' ∧ c ≠ '-' ∧ c.toNat < 65 := by
    have range := Json.toNat_of_isAsciiDigit digit
    refine ⟨?_, ?_, by omega⟩ <;> rintro rfl <;> contradiction
  cases leading with
  | whole proper =>
    obtain ⟨c, more, rfl⟩ := List.exists_cons_of_ne_nil proper.nonempty
    exact ⟨c, more, rfl, digit (proper.all c (List.mem_cons_self ..))⟩
  | @pointed whole fraction proper =>
    cases whole with
    | nil => exact ⟨'.', fraction, rfl, by decide⟩
    | cons c more => exact ⟨c, _, rfl, digit (proper.all c (List.mem_cons_self ..))⟩

theorem toBinary64_ne_nan (negative : Bool) (d : Decimal) : d.toBinary64 negative ≠ .nan := by
  intro same
  unfold Decimal.toBinary64 Binary64.ofQuotient at same
  simp only at same
  repeat' split at same
  all_goals cases same

/-- A mantissa with an exponent is read as the double nearest to it. -/
theorem asciiDouble?_decimal {mantissa exponent : List Char} {places : Nat}
    (signed : SignText sign negative) (leading : MantissaText mantissa digits places)
    (scaled : ExponentText exponent n) :
    asciiDouble? (sign ++ (mantissa ++ exponent)) =
      some (Decimal.toBinary64 negative ⟨Nat.ofDigitChars 10 digits 0, n - places⟩) := by
  have read := unsignedDecimal?_eq_some_iff.mpr ⟨_, _, _, _, _, leading, scaled, rfl, rfl⟩
  obtain ⟨c, more, rfl, notPlus, notMinus, small⟩ := leading.head
  have split : splitSign (sign ++ (c :: more ++ exponent)) = (negative, c :: more ++ exponent) := by
    refine splitSign_append signed fun d first => ?_
    obtain rfl := Option.some.inj first
    exact ⟨notPlus, notMinus⟩
  have other (word : String) {letter : Char} (begins : word.toList.head? = some letter)
      (large : 65 ≤ letter.toNat) : ¬ InAnyCase word (c :: more ++ exponent) :=
    not_inAnyCase small begins large
  have infinite := not_or.mpr ⟨other "inf" rfl (by decide), other "infinity" rfl (by decide)⟩
  have nan := other "nan" rfl (by decide)
  unfold InAnyCase at infinite nan
  unfold asciiDouble?
  simp only [split]
  rw [if_neg infinite, if_neg nan, read]
  rfl

/-- A word for infinity is read as that. -/
theorem asciiDouble?_infinity {word : List Char} (signed : SignText sign negative)
    (named : InAnyCase "inf" word ∨ InAnyCase "infinity" word) :
    asciiDouble? (sign ++ word) = some (.infinite negative) := by
  have split : splitSign (sign ++ word) = (negative, word) := by
    rcases named with named | named
    · exact splitSign_word signed named rfl (by decide)
    · exact splitSign_word signed named rfl (by decide)
  unfold asciiDouble?
  simp only [split]
  exact if_pos named

/-- A word for the double that is no number is read as that. -/
theorem asciiDouble?_nan {word : List Char} (signed : SignText sign negative)
    (named : InAnyCase "nan" word) : asciiDouble? (sign ++ word) = some .nan := by
  have split := splitSign_word signed named rfl (by decide)
  unfold InAnyCase at named
  unfold asciiDouble?
  simp only [split, named]
  rfl

/-- **The reader of doubles accepts exactly the literals of doubles**, and words for the double that
is no number. -/
theorem asciiDouble?_eq_some_iff {x : Binary64} :
    asciiDouble? cs = some x ∧ x ≠ .nan ↔ DoubleText cs x := by
  constructor
  · rintro ⟨read, number⟩
    obtain ⟨sign, signed, split⟩ := signText_splitSign cs
    unfold asciiDouble? at read
    simp only at read
    generalize (splitSign cs).1 = negative at read signed
    generalize (splitSign cs).2 = body at read split
    subst split
    split at read
    · rename_i named
      obtain rfl := Option.some.inj read
      exact .infinity signed named
    · split at read
      · exact absurd (Option.some.inj read).symm number
      · obtain ⟨d, decimal, rfl⟩ := Option.map_eq_some_iff.mp read
        obtain ⟨mantissa, digits, places, exponent, n, leading, scaled, rfl, rfl⟩ :=
          unsignedDecimal?_eq_some_iff.mp decimal
        exact .decimal signed leading scaled
  · intro written
    cases written with
    | decimal signed leading scaled =>
      exact ⟨asciiDouble?_decimal signed leading scaled, toBinary64_ne_nan _ _⟩
    | infinity signed named => exact ⟨asciiDouble?_infinity signed named, nofun⟩

/-- An integer literal is the literal of a double, too. -/
theorem IntegerText.double (written : IntegerText cs count n) : ∃ x, DoubleText cs x := by
  cases written with
  | @mk sign digits negative signed proper =>
    have double := DoubleText.decimal signed (.whole proper) .none
    rw [List.append_nil] at double
    exact ⟨_, double⟩

/-! ## 5. Characters of literals -/

open Json (PlainChar)

theorem SignText.plain (signed : SignText sign negative) : ∀ c ∈ sign, PlainChar c := by
  cases signed with
  | none => nofun
  | plus => exact List.forall_mem_singleton.mpr (by decide)
  | minus => exact List.forall_mem_singleton.mpr (by decide)

theorem IntegerText.plain (written : IntegerText cs count n) : ∀ c ∈ cs, PlainChar c := by
  cases written with
  | mk signed proper =>
    exact List.forall_mem_append.mpr
      ⟨signed.plain, fun c mem => Json.plainChar_of_digit (proper.all c mem)⟩

theorem ExponentText.plain (scaled : ExponentText cs n) : ∀ c ∈ cs, PlainChar c := by
  cases scaled with
  | none => nofun
  | marked small written =>
    refine List.forall_mem_cons.mpr ⟨?_, written.plain⟩
    rcases small with rfl | rfl <;> decide

theorem MantissaText.plain {mantissa : List Char} {places : Nat}
    (leading : MantissaText mantissa digits places) : ∀ c ∈ mantissa, PlainChar c := by
  cases leading with
  | whole proper => exact fun c mem => Json.plainChar_of_digit (proper.all c mem)
  | pointed proper =>
    obtain ⟨before, behind⟩ := List.forall_mem_append.mp proper.all
    refine List.forall_mem_append.mpr ⟨?_, List.forall_mem_cons.mpr ⟨by decide, ?_⟩⟩
    · exact fun c mem => Json.plainChar_of_digit (before c mem)
    · exact fun c mem => Json.plainChar_of_digit (behind c mem)

/-- A capital letter of ASCII is read as it stands if its small letter is. -/
theorem plainChar_of_toLower {c : Char} (plain : PlainChar c.toLower) : PlainChar c := by
  by_cases capital : 65 ≤ c.toNat ∧ c.toNat ≤ 90
  · refine ⟨?_, ?_, by omega⟩
    · simp only [isBlank, CodeRange.covers, blankTable, List.any_cons, List.any_nil]
      simp
      omega
    · rintro rfl
      exact absurd capital (by decide)
  · have same : c.toLower = c := by
      unfold Char.toLower
      rw [dif_neg]
      rintro ⟨low, high⟩
      exact capital ⟨UInt32.le_iff_toNat_le.mp low, UInt32.le_iff_toNat_le.mp high⟩
    rw [same] at plain
    exact plain

theorem InAnyCase.plain {word : String} (same : InAnyCase word cs)
    (plain : word.toList.all (PlainChar ·) = true) : ∀ c ∈ cs, PlainChar c := by
  intro c mem
  refine plainChar_of_toLower (of_decide_eq_true (List.all_eq_true.mp plain _ ?_))
  rw [← same, String.toList_ofList]
  exact List.mem_map_of_mem mem

theorem DoubleText.plain {x : Binary64} (written : DoubleText cs x) : ∀ c ∈ cs, PlainChar c := by
  cases written with
  | decimal signed leading scaled =>
    exact List.forall_mem_append.mpr
      ⟨signed.plain, List.forall_mem_append.mpr ⟨leading.plain, scaled.plain⟩⟩
  | infinity signed named =>
    refine List.forall_mem_append.mpr ⟨signed.plain, ?_⟩
    rcases named with named | named
    · exact named.plain (by decide)
    · exact named.plain (by decide)

end Literal

/-! ## 6. Texts -/

open Literal

/-- **What a text denotes** around which there are no blanks: nothing is zero; an integer literal
with at most 4300 digits is that integer; every other literal of a double is that double. -/
inductive Denotes : Text → Number → Prop
  | nothing : Denotes [] (.int 0)
  | integer {cs : List Char} {count : Nat} {n : Int} (written : IntegerText cs count n)
      (short : count ≤ 4300) : Denotes (ofChars cs) (.int n)
  | double {cs : List Char} {x : Binary64} (written : DoubleText cs x)
      (other : ∀ count n, IntegerText cs count n → 4300 < count) : Denotes (ofChars cs) (.double x)

/-- What denotes a number is nothing or the literal of a double, as integer literals are too. -/
theorem Denotes.literal {t : Text} {n : Number} (denotes : Denotes t n) :
    t = [] ∨ ∃ cs x, t = ofChars cs ∧ DoubleText cs x := by
  cases denotes with
  | nothing => exact .inl rfl
  | integer written _ =>
    obtain ⟨x, double⟩ := written.double
    exact .inr ⟨_, x, rfl, double⟩
  | double written _ => exact .inr ⟨_, _, rfl, written⟩

namespace Number

variable {text : Text} {n : Number}

theorem ofText?_strip (text : Text) : ofText? (strip text) = ofText? text := by
  simp only [ofText?, strip_strip]

/-- Letters that are characters of ASCII. -/
theorem ofChars_toChars_of_known {t : Text}
    (known : t.toChars.any (fun c => c = '_' || 127 < c.toNat) = false) :
    ofChars t.toChars = t := by
  refine (Text.ofChars_toChars (p := fun c => c.toNat ≤ 127) fun letter mem => ?_).1
  have ascii := List.any_eq_false.mp known _ (List.mem_map_of_mem mem)
  simp only [Bool.or_eq_true, decide_eq_true_eq, not_or, Nat.not_lt] at ascii
  cases letter with
  | half offset =>
    have ascii : '\uFFFD'.toNat ≤ 127 := ascii.2
    contradiction
  | char c => exact decide_eq_true ascii.2

/-- **A text is read as the number that it denotes.** -/
theorem ofText?_eq_some_iff : ofText? text = some n ↔ Denotes (strip text) n := by
  constructor
  · intro read
    unfold ofText? at read
    simp only at read
    split at read
    · rename_i nothing
      obtain rfl := Option.some.inj read
      have empty : strip text = [] := by simpa [toChars] using nothing
      rw [empty]
      exact .nothing
    · rw [Option.ite_none_left_eq_some] at read
      obtain ⟨known, read⟩ := read
      rw [← ofChars_toChars_of_known (Bool.eq_false_iff.mpr known)]
      split at read
      · rename_i m integer
        obtain rfl := Option.some.inj read
        obtain ⟨count, written, short⟩ := asciiInteger?_eq_some_iff.mp integer
        exact .integer written short
      · rename_i none
        split at read
        · contradiction
        · rename_i x number double
          obtain rfl := Option.some.inj read
          refine .double (asciiDouble?_eq_some_iff.mp ⟨double, number⟩) fun count m written => ?_
          rw [← Nat.not_le]
          intro short
          have integer := asciiInteger?_eq_some_iff.mpr ⟨count, written, short⟩
          exact Option.some_ne_none m (integer.symm.trans none)
        · contradiction
  · intro denotes
    rw [← ofText?_strip]
    generalize strip text = t at denotes
    cases denotes with
    | nothing => rfl
    | integer written short =>
      exact ofText?_of_integer written.plain (asciiInteger?_eq_some_iff.mpr ⟨_, written, short⟩)
    | @double cs x written other =>
      obtain ⟨read, number⟩ := asciiDouble?_eq_some_iff.mpr written
      refine ofText?_of_double written.plain ?_ read (by cases x <;> first | rfl | contradiction)
      rw [Option.eq_none_iff_forall_ne_some]
      intro m integer
      obtain ⟨count, written, short⟩ := asciiInteger?_eq_some_iff.mp integer
      exact absurd short (Nat.not_le.mpr (other count m written))

/-- No letter beyond ASCII and no underscore stands in a text that denotes a number. -/
theorem not_denotes_of_foreign {t : Text} {letter : Letter} (mem : letter ∈ t)
    (foreign : letter = .char '_' ∨ 128 ≤ letter.code) : ¬ Denotes t n := by
  intro denotes
  rcases denotes.literal with rfl | ⟨cs, x, rfl, written⟩
  · cases mem
  · obtain ⟨c, among, rfl⟩ := List.mem_map.mp mem
    obtain ⟨-, other, ascii⟩ := written.plain c among
    rcases foreign with same | beyond
    · exact other (Letter.char.inj same)
    · exact absurd ascii (Nat.not_le.mpr beyond)

/-- No word for the double that is no number denotes a number. -/
theorem not_denotes_nan {sign word : List Char} {negative : Bool} (signed : SignText sign negative)
    (named : InAnyCase "nan" word) : ¬ Denotes (ofChars (sign ++ word)) n := by
  intro denotes
  rcases denotes.literal with nothing | ⟨cs, x, same, written⟩
  · obtain ⟨-, rfl⟩ := List.append_eq_nil_iff.mp (List.map_eq_nil_iff.mp nothing)
    have empty : String.ofList [] = "nan" := named
    contradiction
  · have same : sign ++ word = cs := by
      have chars := congrArg toChars same
      rwa [toChars_ofChars, toChars_ofChars] at chars
    subst same
    obtain ⟨read, number⟩ := asciiDouble?_eq_some_iff.mpr written
    exact number (Option.some.inj (read.symm.trans (asciiDouble?_nan signed named)))

end Number

/-- What is left of a text without the blanks around it. -/
structure Trimmed (text t : Text) : Prop where
  around : ∃ before after, text = before ++ (t ++ after) ∧
    (∀ letter ∈ before, letter.isChar isBlank = true) ∧
      ∀ letter ∈ after, letter.isChar isBlank = true
  first : ∀ letter ∈ t.head?, letter.isChar isBlank = false
  last : ∀ letter ∈ t.getLast?, letter.isChar isBlank = false

/-- **How numbers are read**, where `fallback` is given for what denotes none. -/
structure ReadsNumbers (fallback : Number) : Prop where
  /-- Reading ends without a fault, whatever the text. -/
  total : ∀ text : Text,
    Condition.readNumber text fallback = .ok ((Number.ofText? text).getD fallback)
  /-- Blanks around a text do not count. -/
  trimmed : ∀ text : Text, Trimmed text (strip text)
  /-- What denotes a number is read as that number, and as a number of its kind. -/
  denoted : ∀ (text : Text) (n : Number), Denotes (strip text) n →
    Condition.readNumber text fallback = .ok n
  /-- What denotes none is read as the fallback. -/
  other : ∀ text : Text, (∀ n, ¬ Denotes (strip text) n) →
    Condition.readNumber text fallback = .ok fallback
  /-- An underscore denotes none, nor does a letter beyond ASCII. -/
  foreign : ∀ (text : Text) (letter : Letter), letter ∈ strip text →
    letter = .char '_' ∨ 128 ≤ letter.code → Condition.readNumber text fallback = .ok fallback
  /-- Nor does a word for the double that is no number. -/
  nan : ∀ (text : Text) (sign word : List Char) (negative : Bool), SignText sign negative →
    InAnyCase "nan" word → strip text = ofChars (sign ++ word) →
      Condition.readNumber text fallback = .ok fallback
  /-- So what is read is a number, unless the fallback is none. -/
  proper : ∀ (text : Text) (n : Number), Condition.readNumber text fallback = .ok n →
    n.isNaN = true → fallback.isNaN = true
  /-- An integer with at most 4300 digits is read as it is shown. -/
  shown : ∀ n : Int, (toString n.natAbs).length ≤ 4300 →
    Condition.readNumber (toString n) fallback = .ok (.int n)

theorem trimmed_strip (text : Text) : Trimmed text (strip text) where
  around := exists_around (Letter.isChar isBlank) text
  first _ := head_stripWhile
  last _ := last_stripWhile

section

variable {text : Text} {n : Number}

theorem readNumber_of_denotes (fallback : Number) (denotes : Denotes (strip text) n) :
    Condition.readNumber text fallback = .ok n := by
  rw [Condition.readNumber_eq, Number.ofText?_eq_some_iff.mpr denotes]
  rfl

theorem readNumber_of_not_denotes (fallback : Number) (none : ∀ n, ¬ Denotes (strip text) n) :
    Condition.readNumber text fallback = .ok fallback := by
  have unread : Number.ofText? text = Option.none := by
    rw [Option.eq_none_iff_forall_ne_some]
    intro n read
    exact none n (Number.ofText?_eq_some_iff.mp read)
  rw [Condition.readNumber_eq, unread]
  rfl

/-- An integer that is not too long is read as it is shown. -/
theorem readNumber_shown (fallback : Number) {m : Int}
    (short : (toString m.natAbs).length ≤ 4300) :
    Condition.readNumber (toString m) fallback = .ok (.int m) := by
  have few : (NumeralStyle.digitsOf m.natAbs).length ≤ digitLimit := by
    rw [NumeralStyle.digitsOf, String.length_toList]
    exact short
  have notOverlong : (Number.int m).isOverlong = false := by
    simp only [Number.isOverlong, decide_eq_false_iff_not, Nat.not_le]
    exact (NumeralStyle.length_digitsOf_le (by decide)).mp few
  have read := Number.ofText?_shown notOverlong rfl
  rw [Condition.readNumber_eq]
  exact congrArg (fun read => Except.ok (read.getD fallback)) read

end

/-- **Reading a number accepts exactly its grammar**, and does not fail. -/
theorem readsNumbers (fallback : Number) : ReadsNumbers fallback where
  total text := Condition.readNumber_eq text fallback
  trimmed := trimmed_strip
  denoted _ _ denotes := readNumber_of_denotes fallback denotes
  other _ none := readNumber_of_not_denotes fallback none
  foreign _ _ mem foreign :=
    readNumber_of_not_denotes fallback fun _ => Number.not_denotes_of_foreign mem foreign
  nan text sign word negative signed named stripped := by
    refine readNumber_of_not_denotes fallback fun n => ?_
    rw [stripped]
    exact Number.not_denotes_nan signed named
  proper text n read nan := by
    rw [Condition.readNumber_eq] at read
    cases denoted : Number.ofText? text with
    | none =>
      rw [denoted] at read
      rw [← Except.ok.inj read] at nan
      exact nan
    | some m =>
      rw [denoted] at read
      obtain rfl : m = n := Except.ok.inj read
      exact absurd (nan.symm.trans (Number.isNaN_of_ofText? denoted)) nofun
  shown _ short := readNumber_shown fallback short

end Gamebook

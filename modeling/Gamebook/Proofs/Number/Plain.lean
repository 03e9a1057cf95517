/-
# Plain numerals

The readers of integers and doubles accept blanks, underscores and the digits of all scripts.  A
numeral without any of these, in ASCII, they read as it stands: `integer?_of_plain` and
`double?_of_plain` say that the general readers are then the plain ones.

The character U+007F needs a word of its own.  It is in ASCII, but the general readers refuse it
before they look at it, as it is no blank and no digit; the plain readers refuse it where they come
to it.
-/
import Gamebook.Number.Literal
import Gamebook.Proofs.Number.Integers

namespace Gamebook.Literal

open Text

variable {cs : List Char} {previous : Option Char}

/-- Characters of ASCII without underscores, with no blank at an end. -/
structure Plain (cs : List Char) : Prop where
  ascii : ∀ c ∈ cs, c.toNat ≤ 127
  smooth : '_' ∉ cs
  bare : stripWhile isAsciiBlank cs = cs

/-- The last character of ASCII. -/
def delete : Char := '\x7f'

theorem toNat_lt_of_ne_delete {c : Char} (ascii : c.toNat ≤ 127) (other : c ≠ delete) :
    c.toNat < 127 := by
  refine Nat.lt_of_le_of_ne ascii ?_
  intro code
  exact other (Char.toNat_inj.mp code)

/-! ## 1. What the readers do first -/

/-- What is plain is spelled as it stands. -/
theorem normalise_of_plain (plain : Plain cs) (without : delete ∉ cs) : normalise cs = some cs := by
  have spelled : (cs.mapM fun c =>
      if c.toNat < 127 then some c
      else if isBlank c then some ' '
      else (decimalValue? c).map fun value => Char.ofNat ('0'.toNat + value)) = some cs := by
    have each : ∀ c ∈ cs, c.toNat < 127 := by
      intro c mem
      refine toNat_lt_of_ne_delete (plain.ascii c mem) ?_
      rintro rfl
      exact without mem
    clear plain without
    induction cs with
    | nil => rfl
    | cons c rest ih =>
      rcases List.forall_mem_cons.mp each with ⟨first, others⟩
      rw [List.mapM_cons, ih others, if_pos first]
      rfl
  unfold normalise
  rw [spelled]
  exact congrArg some plain.bare

theorem normalise_of_delete (mem : delete ∈ cs) : normalise cs = none := by
  unfold normalise
  rw [mapM_eq_none mem]
  · rfl
  · decide

theorem dropUnderscores_of_not_mem (smooth : '_' ∉ cs) :
    dropUnderscores previous cs = some cs := by
  induction cs generalizing previous with
  | nil => rfl
  | cons c rest ih =>
    rw [List.mem_cons, not_or] at smooth
    rw [dropUnderscores, ih smooth.2]
    · rfl
    · exact fun same => smooth.1 same.symm

/-! ## 2. The character that is refused -/

theorem mem_of_splitSign (mem : delete ∈ cs) : delete ∈ (splitSign cs).2 := by
  unfold splitSign
  split
  · exact (List.mem_cons.mp mem).resolve_left (by decide)
  · exact (List.mem_cons.mp mem).resolve_left (by decide)
  · exact mem

theorem integerParts?_of_delete (mem : delete ∈ cs) : integerParts? cs = none := by
  have refused : (splitSign cs).2.all isAsciiDigit = false :=
    List.all_eq_false.mpr ⟨delete, mem_of_splitSign mem, by decide⟩
  simp [integerParts?, refused]

/-- What is no digit is not among the leading digits. -/
theorem mem_dropWhile_of_delete (mem : delete ∈ cs) : delete ∈ cs.dropWhile isAsciiDigit := by
  rw [← List.takeWhile_append_dropWhile (p := isAsciiDigit) (l := cs), List.mem_append] at mem
  refine mem.resolve_left fun leading => ?_
  exact absurd (List.mem_takeWhile_imp leading) (by decide)

theorem exponentPart?_of_delete (mem : delete ∈ cs) : exponentPart? cs = none := by
  cases cs with
  | nil => contradiction
  | cons mark rest =>
    simp only [exponentPart?]
    split
    · rename_i which
      have later : delete ∈ rest := by
        refine (List.mem_cons.mp mem).resolve_left ?_
        rintro rfl
        exact absurd which (by decide)
      rw [integerParts?_of_delete later]
      rfl
    · rfl

theorem unsignedDecimal?_of_delete (mem : delete ∈ cs) : unsignedDecimal? cs = none := by
  have after := mem_dropWhile_of_delete mem
  unfold unsignedDecimal?
  simp only
  generalize cs.takeWhile isAsciiDigit = whole
  generalize cs.dropWhile isAsciiDigit = afterWhole at after
  split
  · rename_i more
    have later : delete ∈ more := (List.mem_cons.mp after).resolve_left (by decide)
    simp [exponentPart?_of_delete (mem_dropWhile_of_delete later)]
  · simp [exponentPart?_of_delete after]

theorem asciiDouble?_of_delete (mem : delete ∈ cs) : asciiDouble? cs = none := by
  have inside := mem_of_splitSign mem
  have word (text : String) (without : delete ∉ text.toList) :
      String.ofList ((splitSign cs).2.map Char.toLower) ≠ text := by
    rintro rfl
    refine without ?_
    rw [String.toList_ofList]
    exact List.mem_map.mpr ⟨delete, inside, by decide⟩
  simp only [asciiDouble?, word "inf" (by decide), word "infinity" (by decide),
    word "nan" (by decide), or_self, if_false, unsignedDecimal?_of_delete inside, Option.map_none]

/-! ## 3. Reading -/

/-- **Plain integers are read as they stand.** -/
theorem integer?_of_plain (plain : Plain cs) :
    integer? cs = ((integerParts? cs).map fun (negative, digits) =>
      integerOf negative digits).getD (.error .malformedInteger) := by
  have parts : ((normalise cs).bind (dropUnderscores none)).bind integerParts? =
      integerParts? cs := by
    by_cases mem : delete ∈ cs
    · rw [normalise_of_delete mem, integerParts?_of_delete mem]
      rfl
    · rw [normalise_of_plain plain mem, Option.bind_some,
        dropUnderscores_of_not_mem plain.smooth, Option.bind_some]
  unfold integer?
  rw [parts]
  cases integerParts? cs with
  | none => rfl
  | some parts => rfl

/-- **Plain doubles are read as they stand.** -/
theorem double?_of_plain (plain : Plain cs) : double? cs = asciiDouble? cs := by
  unfold double?
  by_cases mem : delete ∈ cs
  · rw [normalise_of_delete mem, asciiDouble?_of_delete mem]
    rfl
  · rw [normalise_of_plain plain mem, Option.bind_some, dropUnderscores_of_not_mem plain.smooth,
      Option.bind_some]

end Gamebook.Literal

namespace Gamebook.Number

/-- No text reads as NaN. -/
theorem isNaN_of_ofText? {text : Text} {a : Number} (read : ofText? text = some a) :
    a.isNaN = false := by
  unfold ofText? at read
  simp only at read
  split at read
  · obtain rfl := Option.some.inj read
    rfl
  · split at read
    · contradiction
    · split at read
      · obtain rfl := Option.some.inj read
        rfl
      · split at read
        · contradiction
        · rename_i x other _
          obtain rfl := Option.some.inj read
          cases x with
          | nan => exact absurd rfl other
          | finite negative units fits => rfl
          | infinite negative => rfl
        · contradiction

end Gamebook.Number

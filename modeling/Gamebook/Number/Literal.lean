/-
# Numbers as they are written

Three grammars of numerals.

* `integer?` reads an optional sign and decimal digits, with single underscores between the
  digits; the sign apart, `integerOf` refuses more than `digitLimit` digits.
* `decimal?` reads an optional sign and a decimal numeral (digits with an optional point and an
  optional exponent), or `inf`, `infinity` or `nan` in any case.
* `Number.ofText?` is the number that a default, a literal of a condition or a stored text
  denotes: the plain ASCII forms only, an integer whenever the text is one of at most
  `digitLimit` digits, and never NaN.

The first two accept surrounding blanks and the decimal digits of all scripts, as
`normalise` spells them in ASCII.
-/
import Gamebook.Number.Basic
import Gamebook.Number.Decimal
import Gamebook.Text.Blank
import Gamebook.Text.Digit

namespace Gamebook.Literal

open Text

/-- The most digits, leading zeros included, that an integer may be written with. -/
def digitLimit : Nat := 4300

/-! ## 1. Pieces -/

/-- Splits off a leading sign; true for a minus. -/
def splitSign : List Char → Bool × List Char
  | '+' :: rest => (false, rest)
  | '-' :: rest => (true, rest)
  | cs => (false, cs)

/-- A natural number with a sign. -/
def applySign (negative : Bool) (n : Nat) : Int := if negative then -n else n

/-- Removes the underscores of a numeral, each of which must stand between two digits. -/
def dropUnderscores : Option Char → List Char → Option (List Char)
  | _, [] => some []
  | previous, '_' :: rest =>
    if previous.any isAsciiDigit && rest.head?.any isAsciiDigit then
      dropUnderscores (some '_') rest
    else none
  | _, c :: rest => (dropUnderscores (some c) rest).map (c :: ·)

/-- Spells a numeral in ASCII: digits of other scripts become the digits `0` to `9` and wide
blanks become spaces, after which the blanks at the ends are dropped.  No other character
beyond ASCII may occur. -/
def normalise (cs : List Char) : Option (List Char) := do
  let ascii ← cs.mapM fun c =>
    if c.toNat < 127 then some c
    else if isBlank c then some ' '
    else (decimalValue? c).map fun value => Char.ofNat ('0'.toNat + value)
  return stripWhile isAsciiBlank ascii

/-! ## 2. Integers -/

/-- The sign and the digits of an ASCII integer without underscores. -/
def integerParts? (cs : List Char) : Option (Bool × List Char) :=
  let (negative, digits) := splitSign cs
  if digits.isEmpty || !digits.all isAsciiDigit then none else some (negative, digits)

/-- The integer with a sign and digits, of which there may not be too many. -/
def integerOf (negative : Bool) (digits : List Char) : Except Fault Int :=
  if digitLimit < digits.length then .error .tooManyDigits
  else .ok (applySign negative (asciiDigitsValue digits))

/-- Reads an ASCII integer of at most `digitLimit` digits, without underscores and blanks. -/
def asciiInteger? (cs : List Char) : Option Int :=
  (integerParts? cs).bind fun (negative, digits) => (integerOf negative digits).toOption

/-- Reads an integer in the digits of any script, with underscores and surrounding blanks. -/
def integer? (cs : List Char) : Except Fault Int :=
  match (normalise cs).bind (dropUnderscores none) |>.bind integerParts? with
  | some (negative, digits) => integerOf negative digits
  | none => .error .malformedInteger

/-! ## 3. Decimal numbers -/

/-- The exponent of a numeral: nothing, or a mark, an optional sign and digits to the end. -/
def exponentPart? : List Char → Option Int
  | [] => some 0
  | mark :: rest =>
    if mark = 'e' ∨ mark = 'E' then
      (integerParts? rest).map fun (negative, digits) =>
        applySign negative (asciiDigitsValue digits)
    else none

/-- An unsigned decimal numeral in ASCII without underscores. -/
def unsignedDecimal? (cs : List Char) : Option Decimal :=
  let whole := cs.takeWhile isAsciiDigit
  let afterWhole := cs.dropWhile isAsciiDigit
  let (fraction, rest) := match afterWhole with
    | '.' :: more => (more.takeWhile isAsciiDigit, more.dropWhile isAsciiDigit)
    | _ => ([], afterWhole)
  if whole.isEmpty && fraction.isEmpty then none
  else (exponentPart? rest).map fun exponent =>
    ⟨asciiDigitsValue (whole ++ fraction), exponent - fraction.length⟩

/-- A double in ASCII without underscores and blanks: a decimal numeral, infinity or NaN. -/
def asciiDouble? (cs : List Char) : Option Binary64 :=
  let (negative, body) := splitSign cs
  let word := String.ofList (body.map Char.toLower)
  if word = "inf" ∨ word = "infinity" then some (.infinite negative)
  else if word = "nan" then some .nan
  else (unsignedDecimal? body).map (Decimal.toBinary64 negative)

/-- Reads a double in the digits of any script, with underscores and surrounding blanks. -/
def double? (cs : List Char) : Option Binary64 :=
  (normalise cs).bind (dropUnderscores none) |>.bind asciiDouble?

end Gamebook.Literal

namespace Gamebook.Number

open Text Literal

/-- **The number that a text denotes.**  Surrounding blanks do not count, and blank text is
zero.  Underscores and characters beyond ASCII are refused.  What is left is an integer of at
most `digitLimit` digits, or else a double that is not NaN. -/
def ofText? (text : Text) : Option Number :=
  let cs := (strip text).toChars
  if cs.isEmpty then some (.int 0)
  else if cs.any (fun c => c = '_' || 127 < c.toNat) then none
  else
    match asciiInteger? cs with
    | some n => some (.int n)
    | none => match asciiDouble? cs with
      | some .nan => none
      | some x => some (.double x)
      | none => none

/-- Whether a number is an integer with more digits than are read or written. -/
def isOverlong : Number → Bool
  | .int n => Nat.pow 10 digitLimit ≤ n.natAbs
  | .double _ => false

end Gamebook.Number

/-
# Reading JSON

`Json.read` decodes a JSON text to a datum.  Beyond the standard it accepts `NaN`, `Infinity`
and `-Infinity`; a numeral without point and exponent is an integer of any size up to the digit
limit, and a key that is repeated in an object takes its last value in its first place.

A failure is a cause with the place where it was met, kept as the number of characters from
there to the end.  Readers take a text and return what is left of it; a container is read by
recursion on the length of what is left.
-/
import Gamebook.Datum.Basic
import Gamebook.Number.Literal
import Gamebook.Text.Cursor
import Gamebook.Text.Quoted

namespace Gamebook.Json

open Text

/-! ## 1. Failures -/

/-- Why a text is not JSON. -/
inductive Cause where
  | byteOrderMark
  | expectedValue
  | expectedName
  | expectedColon
  | expectedComma
  | openText
  | controlCharacter
  | unknownEscape
  | badCodeEscape
  | extraData
  | tooManyDigits (count : Nat)
  /-- Lists and objects are nested deeper than `depthLimit`. -/
  | tooDeep
deriving DecidableEq, Repr

/-- A cause, and how many characters there were from the place of the failure to the end. -/
structure Failure where
  cause : Cause
  left : Nat
deriving DecidableEq, Repr

/-- How deeply lists and objects may be nested.  This is no property of the texts: every layer takes
a place on the call stack, and the bound is what is left of the stack by the calls that are under
way.  The figure is that of a reader called by a program that calls nothing else around it; under
more calls it is lower by as many. -/
def depthLimit : Nat := 987

/-- The wording of a cause; the place is told after it. -/
def Cause.wording : Cause → String
  | .byteOrderMark => "Unexpected UTF-8 BOM (decode using utf-8-sig)"
  | .expectedValue => "Expecting value"
  | .expectedName => "Expecting property name enclosed in double quotes"
  | .expectedColon => "Expecting ':' delimiter"
  | .expectedComma => "Expecting ',' delimiter"
  | .openText => "Unterminated string starting at"
  | .controlCharacter => "Invalid control character at"
  | .unknownEscape => "Invalid \\escape"
  | .badCodeEscape => "Invalid \\uXXXX escape"
  | .extraData => "Extra data"
  | .tooManyDigits count =>
    "Exceeds the limit (" ++ toString Literal.digitLimit
      ++ " digits) for integer string conversion: value has " ++ toString count
      ++ " digits; use sys.set_int_max_str_digits() to increase the limit"
  | .tooDeep => "Nested too deeply"

/-- A failure in the text where it was met: its wording with line, column and position. -/
def Failure.message (text : List Char) (f : Failure) : String :=
  match f.cause with
  | .tooManyDigits _ => f.cause.wording
  | cause =>
    let before := text.take (text.length - f.left)
    let column := (before.reverse.takeWhile (· ≠ '\n')).length + 1
    cause.wording ++ ": line " ++ toString (before.count '\n' + 1) ++ " column "
      ++ toString column ++ " (char " ++ toString before.length ++ ")"

/-! ## 2. Texts and numbers -/

/-- White space between the parts of a JSON text. -/
def isSpace (c : Char) : Bool := c == ' ' || c == '\t' || c == '\n' || c == '\r'

/-- What follows the white space at the front. -/
def skip (cs : List Char) : List Char := cs.dropWhile isSpace

theorem length_skip_le (cs : List Char) : (skip cs).length ≤ cs.length :=
  length_dropWhile_le isSpace cs

theorem length_of_skip {cs rest : List Char} {c : Char} (h : skip cs = c :: rest) :
    rest.length < cs.length := by
  have := length_skip_le cs
  simp [h] at this
  omega

/-- The value of a digit in base 16. -/
def hexValue? (c : Char) : Option Nat :=
  if '0' ≤ c ∧ c ≤ '9' then some (c.toNat - '0'.toNat)
  else if 'a' ≤ c ∧ c ≤ 'f' then some (c.toNat - 'a'.toNat + 10)
  else if 'A' ≤ c ∧ c ≤ 'F' then some (c.toNat - 'A'.toNat + 10)
  else none

/-- The number that digits in base 16 denote. -/
def hexNumber? (digits : List Char) : Option Nat :=
  digits.foldlM (fun value c => (hexValue? c).map (16 * value + ·)) 0

/-- The code point that two units of sixteen bits stand for together, if they form a pair. -/
def pairedCode? (high low : Nat) : Option Nat :=
  if 0xD800 ≤ high ∧ high < 0xDC00 ∧ 0xDC00 ≤ low ∧ low < 0xE000 then
    some (0x10000 + (high - 0xD800) * 0x400 + (low - 0xDC00))
  else none

/-- The letter of a code below U+110000. -/
def letterOfCode (code : Nat) : Letter := (Letter.ofCode? code).getD default

/-- The character of a one-letter escape. -/
def escaped? : Char → Option Char
  | '"' => some '"'
  | '\\' => some '\\'
  | '/' => some '/'
  | 'b' => some (Char.ofNat 8)
  | 'f' => some (Char.ofNat 12)
  | 'n' => some '\n'
  | 'r' => some '\r'
  | 't' => some '\t'
  | _ => none

/-- Reads four digits in base 16, after which something must follow. -/
def codeUnit (cs : List Char) : Except Failure (Nat × List Char) :=
  match cs with
  | a :: b :: c :: d :: e :: rest =>
    match hexNumber? [a, b, c, d] with
    | some unit => .ok (unit, e :: rest)
    | none => .error ⟨.badCodeEscape, cs.length + 1⟩
  | _ => .error ⟨.badCodeEscape, cs.length + 1⟩

/-- Reads one letter of a text by its code, after the escape mark; two units that form a pair are
one letter. -/
def codeEscape (cs : List Char) : Except Failure (Letter × List Char) :=
  match codeUnit cs with
  | .error failure => .error failure
  | .ok (high, rest) =>
    match rest with
    | '\\' :: 'u' :: more =>
      if 0xD800 ≤ high ∧ high < 0xDC00 ∧ 4 < more.length then
        match codeUnit more with
        | .error failure => .error failure
        | .ok (low, after) =>
          match pairedCode? high low with
          | some code => .ok (letterOfCode code, after)
          | none => .ok (letterOfCode high, rest)
      else .ok (letterOfCode high, rest)
    | _ => .ok (letterOfCode high, rest)

theorem length_of_codeUnit {cs rest : List Char} {unit : Nat}
    (h : codeUnit cs = .ok (unit, rest)) : rest.length < cs.length := by
  unfold codeUnit at h
  split at h
  · split at h
    · simp only [Except.ok.injEq, Prod.mk.injEq] at h
      obtain ⟨-, rfl⟩ := h
      simp
    · cases h
  · cases h

theorem length_of_codeEscape {cs rest : List Char} {c : Letter}
    (h : codeEscape cs = .ok (c, rest)) : rest.length < cs.length := by
  unfold codeEscape at h
  split at h
  · cases h
  · rename_i high after hunit
    have hlt := length_of_codeUnit hunit
    split at h
    · rename_i more
      split at h
      · split at h
        · cases h
        · rename_i low last hlow
          have hlast := length_of_codeUnit hlow
          split at h <;>
            simp only [Except.ok.injEq, Prod.mk.injEq] at h <;>
            obtain ⟨-, rfl⟩ := h <;> simp at hlt ⊢ <;> omega
      · simp only [Except.ok.injEq, Prod.mk.injEq] at h
        obtain ⟨-, rfl⟩ := h
        exact hlt
    · simp only [Except.ok.injEq, Prod.mk.injEq] at h
      obtain ⟨-, rfl⟩ := h
      exact hlt

/-- Reads the letters of a text up to its closing quote; `start` is how many characters were left
at the opening one. -/
def textBody (start : Nat) (cs : List Char) : Except Failure (Text × Rest cs) :=
  match cs with
  | [] => .error ⟨.openText, start⟩
  | '"' :: rest => .ok ([], ⟨rest, by simp⟩)
  | '\\' :: [] => .error ⟨.openText, start⟩
  | '\\' :: 'u' :: rest =>
    match h : codeEscape rest with
    | .error failure => .error failure
    | .ok (c, after) => do
      let (more, last) ← textBody start after
      return (c :: more, last.within (by
        have := length_of_codeEscape h
        simp only [List.length_cons]
        omega))
  | '\\' :: letter :: rest =>
    match escaped? letter with
    | none => .error ⟨.unknownEscape, rest.length + 2⟩
    | some c => do
      let (more, last) ← textBody start rest
      return (.char c :: more, last.within (by simp only [List.length_cons]; omega))
  | c :: rest =>
    if c.toNat < 0x20 then .error ⟨.controlCharacter, rest.length + 1⟩
    else do
      let (more, last) ← textBody start rest
      return (.char c :: more, last.within (by simp))
termination_by cs.length
decreasing_by
  · have := length_of_codeEscape h; simp only [List.length_cons]; omega
  · simp only [List.length_cons]; omega
  · simp

/-- A numeral in its parts: its integer digits, then its fraction and its exponent if it has
them. -/
structure Numeral where
  negative : Bool
  whole : List Char
  fraction : Option (List Char)
  exponent : Option (Bool × List Char)

/-- Splits the digits off the front of a text. -/
def spanDigits (cs : List Char) : List Char × List Char :=
  (cs.takeWhile isAsciiDigit, cs.dropWhile isAsciiDigit)

/-- The fraction of a numeral: a point with at least one digit after it. -/
def fraction? : List Char → Option (List Char) × List Char
  | '.' :: rest =>
    match spanDigits rest with
    | ([], _) => (none, '.' :: rest)
    | (digits, more) => (some digits, more)
  | cs => (none, cs)

/-- The exponent of a numeral: its mark, an optional sign and at least one digit. -/
def exponent? (cs : List Char) : Option (Bool × List Char) × List Char :=
  match cs with
  | mark :: rest =>
    if mark = 'e' ∨ mark = 'E' then
      let (negative, unsigned) := Literal.splitSign rest
      match spanDigits unsigned with
      | ([], _) => (none, cs)
      | (digits, more) => (some (negative, digits), more)
    else (none, cs)
  | [] => (none, [])

/-- Reads a numeral without its sign: no zero in front of other digits. -/
def numeral? (negative : Bool) (cs : List Char) : Option (Numeral × List Char) :=
  let whole? := match cs with
    | '0' :: rest => some (['0'], rest)
    | _ => match spanDigits cs with
      | ([], _) => none
      | (digits, rest) => some (digits, rest)
  whole?.map fun (whole, rest) =>
    let (fraction, rest) := fraction? rest
    let (exponent, rest) := exponent? rest
    (⟨negative, whole, fraction, exponent⟩, rest)

/-- The number of a numeral: an integer if it has neither fraction nor exponent. -/
def Numeral.number (n : Numeral) : Except Cause Number :=
  match n.fraction, n.exponent with
  | none, none =>
    match Literal.integerOf n.negative n.whole with
    | .ok value => .ok (.int value)
    | .error _ => .error (.tooManyDigits n.whole.length)
  | _, _ =>
    let fraction := n.fraction.getD []
    let exponent := match n.exponent with
      | some (negative, digits) => Literal.applySign negative (asciiDigitsValue digits)
      | none => 0
    .ok (.double (Decimal.toBinary64 n.negative
      ⟨asciiDigitsValue (n.whole ++ fraction), exponent - fraction.length⟩))

/-- The words that stand for values. -/
def words : List (String × Atom) :=
  [("null", .null), ("true", .bool true), ("false", .bool false),
   ("NaN", .number (.double .nan)), ("Infinity", .number (.double (.infinite false))),
   ("-Infinity", .number (.double (.infinite true)))]

/-- What is left of a text after a word at its front. -/
def afterWord? (word : String) (cs : List Char) : Option (List Char) :=
  if word.toList.isPrefixOf cs then some (cs.drop word.length) else none

/-- Reads a scalar that is no text: a word or a number. -/
def scalar (cs : List Char) : Except Failure (Atom × List Char) :=
  match words.findSome? fun (word, a) => (afterWord? word cs).map fun rest => (a, rest) with
  | some found => .ok found
  | none =>
    let numeral := match cs with
      | '-' :: rest => numeral? true rest
      | _ => numeral? false cs
    match numeral with
    | none => .error ⟨.expectedValue, cs.length⟩
    | some (n, rest) =>
      match n.number with
      | .ok value => .ok (.number value, rest)
      | .error cause => .error ⟨cause, cs.length⟩

/-! ## 3. Values -/

mutual

/-- Reads one value from the front of a text; it may be nested `depth` levels deep. -/
def value (depth : Nat) (cs : List Char) : Except Failure (Datum × Rest cs) :=
  match cs with
  | '"' :: rest => do
    let (s, after) ← textBody (rest.length + 1) rest
    return (.text s, after.within (by simp))
  | '[' :: rest =>
    if depth = 0 then .error ⟨.tooDeep, rest.length + 1⟩
    else match h : skip rest with
    | ']' :: after => .ok (.list [], ⟨after, by
      have := length_of_skip h
      simp only [List.length_cons]
      omega⟩)
    | _ => do
      let (found, after) ← items (depth - 1) (skip rest)
      return (.list found, after.within (by
        have := length_skip_le rest
        simp only [List.length_cons]
        omega))
  | '\x7b' :: rest =>
    if depth = 0 then .error ⟨.tooDeep, rest.length + 1⟩
    else match h : skip rest with
    | '\x7d' :: after => .ok (.map [], ⟨after, by
      have := length_of_skip h
      simp only [List.length_cons]
      omega⟩)
    | _ => do
      let (found, after) ← members (depth - 1) (skip rest)
      return (.map (Fields.ofEntries found), after.within (by
        have := length_skip_le rest
        simp only [List.length_cons]
        omega))
  | cs =>
    match scalar cs with
    | .error failure => .error failure
    | .ok (a, after) =>
      if h : after.length < cs.length then .ok (.atom a, ⟨after, h⟩)
      else .error ⟨.expectedValue, cs.length⟩
termination_by (cs.length, 0)
decreasing_by
  all_goals
    apply Prod.Lex.left
    have := length_skip_le rest
    simp
    omega

/-- Reads the values of a list up to its closing bracket. -/
def items (depth : Nat) (cs : List Char) : Except Failure (List Datum × Rest cs) := do
  let (first, after) ← value depth cs
  match h : skip after.1 with
  | ']' :: rest =>
    return ([first], ⟨rest, Nat.lt_trans (length_of_skip h) after.2⟩)
  | ',' :: rest =>
    let (more, last) ← items depth (skip rest)
    return (first :: more, last.within (by
      have h1 := length_of_skip h; have h2 := after.2; have h3 := length_skip_le rest; omega))
  | other => .error ⟨.expectedComma, other.length⟩
termination_by (cs.length, 1)
decreasing_by
  · exact Prod.Lex.right _ (by decide)
  · apply Prod.Lex.left
    have h1 := length_of_skip h; have := after.2; have h3 := length_skip_le rest
    omega

/-- Reads the members of an object up to its closing brace. -/
def members (depth : Nat) (cs : List Char) :
    Except Failure (List (Atom × Datum) × Rest cs) :=
  match cs with
  | '"' :: rest => do
    let (name, afterName) ← textBody (rest.length + 1) rest
    match hc : skip afterName.1 with
    | ':' :: colon =>
      let (d, after) ← value depth (skip colon)
      match h : skip after.1 with
      | '\x7d' :: last =>
        return ([(.text name, d)], ⟨last, by
          have h1 := length_of_skip hc; have h2 := afterName.2; have h3 := length_skip_le colon
          have h4 := after.2; have h5 := length_of_skip h
          simp only [List.length_cons]; omega⟩)
      | ',' :: next =>
        let (more, last) ← members depth (skip next)
        return ((.text name, d) :: more, last.within (by
          have h1 := length_of_skip hc; have h2 := afterName.2; have h3 := length_skip_le colon
          have h4 := after.2; have h5 := length_of_skip h; have h6 := length_skip_le next
          simp only [List.length_cons]; omega))
      | other => .error ⟨.expectedComma, other.length⟩
    | other => .error ⟨.expectedColon, other.length⟩
  | _ => .error ⟨.expectedName, cs.length⟩
termination_by (cs.length, 1)
decreasing_by
  · apply Prod.Lex.left
    have h1 := length_of_skip hc; have := afterName.2; have h3 := length_skip_le colon
    simp only [List.length_cons]; omega
  · apply Prod.Lex.left
    have h1 := length_of_skip hc; have := afterName.2; have h3 := length_skip_le colon
    have := after.2; have h5 := length_of_skip h; have h6 := length_skip_le next
    simp only [List.length_cons]; omega

end

/-- **Decodes a JSON text.** -/
def read (text : List Char) : Except Failure Datum :=
  if text.head? = some (Char.ofNat 0xFEFF) then .error ⟨.byteOrderMark, text.length⟩
  else do
    let (d, after) ← value depthLimit (skip text)
    match skip after.1 with
    | [] => return d
    | rest => .error ⟨.extraData, rest.length⟩

end Gamebook.Json

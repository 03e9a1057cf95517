/-
# The values of scalars

What a scalar stands for, by its tag.  `Scalar.atom` is defined for every text: a plain scalar
fits the tag that it got by its spelling, but a tag may also be written in front of a text that
does not fit it, and then a fault arises.
-/
import Gamebook.Number.Decimal
import Gamebook.Number.Literal
import Gamebook.Text.Base64
import Gamebook.Yaml.Tag

namespace Gamebook.Yaml.Scalar

open Text

/-! ## 1. Integers -/

/-- Splits off the marks of a base, in small or capital letters, if they are there. -/
def dropBase (base : Nat) : List Char → List Char
  | '0' :: letter :: rest =>
    let mark := if base = 2 then 'b' else if base = 8 then 'o' else 'x'
    if letter.toLower = mark then rest else '0' :: letter :: rest
  | cs => cs

/-- Reads an integer in a base of 2, 8 or 16, with a sign and surrounding blanks. -/
def integerIn (base : Nat) (cs : List Char) : Except Fault Int :=
  match Literal.normalise cs with
  | none => .error .malformedInteger
  | some cs =>
    let (negative, body) := Literal.splitSign cs
    match (dropBase base body).mapM hexValue? with
    | some (first :: others) =>
      if (first :: others).all (· < base) then
        .ok (Literal.applySign negative ((first :: others).foldl (fun n d => base * n + d) 0))
      else .error .malformedInteger
    | _ => .error .malformedInteger

/-- The number whose digits in base 60 are given, the first ones first. -/
def sexagesimal (digits : List Int) : Int := digits.foldl (fun n digit => 60 * n + digit) 0

/-- The integer that a text without underscores and without sign stands for. -/
def magnitude (body : List Char) : Except Fault Int :=
  match body with
  | [] => .error .emptyNumeral
  | ['0'] => .ok 0
  | '0' :: 'b' :: rest => integerIn 2 rest
  | '0' :: 'x' :: rest => integerIn 16 rest
  | '0' :: _ => integerIn 8 body
  | _ =>
    if body.contains ':' then do
      return sexagesimal (← (splitAt ':' body).mapM Literal.integer?)
    else Literal.integer? body

/-- The integer that a scalar stands for. -/
def integer (cs : List Char) : Except Fault Int := do
  let (negative, body) := Literal.splitSign (cs.filter (· ≠ '_'))
  let n ← magnitude body
  return if negative then -n else n

/-! ## 2. Decimal numbers -/

/-- A decimal number as it is written. -/
def decimal (cs : List Char) : Except Fault Binary64 :=
  match Literal.double? cs with
  | some x => .ok x
  | none => .error .malformedNumber

/-- Adds up digits in base 60, the last one first, in doubles. -/
def addSexagesimal : Binary64 → Int → List Binary64 → Except Fault Binary64
  | sum, _, [] => .ok sum
  | sum, base, digit :: rest => do
    let weight ← (Number.int base).toBinary64
    addSexagesimal (sum.add (digit.mul weight)) (base * 60) rest

/-- A spelling in small letters and without underscores, its sign split off. -/
def signed (cs : List Char) : Bool × List Char :=
  Literal.splitSign ((cs.filter (· ≠ '_')).map Char.toLower)

/-- Whether a spelling is the name of the value that is no number. -/
def isNaNWord (cs : List Char) : Bool := (signed cs).2 == ".nan".toList

/-- The double that a scalar stands for. -/
def double (cs : List Char) : Except Fault Binary64 := do
  let (negative, body) := signed cs
  let x ←
    if cs.all (· = '_') then throw .emptyNumeral
    else if body = ".inf".toList then pure (Binary64.infinite false)
    else if isNaNWord cs then pure Binary64.nan
    else if body.contains ':' then do
      let digits ← (splitAt ':' body).mapM decimal
      addSexagesimal (.zero false) 1 digits.reverse
    else decimal body
  return if negative then x.neg else x

/-! ## 3. All scalars -/

/-- The truth value of a spelling. -/
def truth (cs : List Char) : Except Fault Bool :=
  let word := String.ofList (cs.map Char.toLower)
  if ["yes", "true", "on"].contains word then .ok true
  else if ["no", "false", "off"].contains word then .ok false
  else .error .noTruthValue

/-- The date or moment of a spelling; one line feed at its end does not count. -/
def timestamp (cs : List Char) : Except Fault Atom :=
  match Timestamp.ofText? (Tag.dropLineFeed cs) with
  | some t => t.atom
  | none => .error .noTimestamp

/-- The bytes of a spelling in base 64. -/
def binary? (cs : List Char) : Option (List UInt8) :=
  if cs.all (·.toNat < 128) then Base64.decode? cs else none

/-- **What a scalar stands for.**  Tags that are not for scalars leave it unreadable. -/
def atom (tag : Tag) (text : Text) : Reading Atom :=
  let cs := text.toChars
  let orFault {α : Type} (result : Except Fault α) : Reading α := result.mapError .fault
  match tag with
  | .null => .ok .null
  | .bool => do return .bool (← orFault (truth cs))
  | .int => do return .number (.int (← orFault (integer cs)))
  | .float => do return .number (.double (← orFault (double cs)))
  | .timestamp => orFault (timestamp cs)
  | .binary => do
    match binary? cs with
    | some bytes => return .bytes bytes
    | none => throw .unreadable
  | .str => .ok (.text text)
  | _ => .error .unreadable

end Gamebook.Yaml.Scalar

/-
# Timestamps

A date is written as year, month and day; a time of day may follow behind a `T` or blanks, and
an offset behind that.  A plain scalar counts as a timestamp if its numbers have all their
digits, or if it has a time of day.
-/
import Gamebook.Datum.Basic
import Gamebook.Text.Digit

namespace Gamebook.Yaml

open Text

/-- The numbers of a timestamp, as they are written. -/
structure Timestamp where
  year : Nat
  month : Nat
  day : Nat
  /-- Hour, minute, second and the digits of the fraction. -/
  time : Option (Nat × Nat × Nat × List Char) := none
  /-- Minutes from universal time. -/
  offset : Option Int := none

namespace Timestamp

/-- Reads `least` digits, or one more if `most` allows it. -/
def digits? (least most : Nat) (cs : List Char) : Option (Nat × List Char) :=
  let run := (cs.take most).takeWhile isAsciiDigit
  if run.length < least then none else some (asciiDigitsValue run, cs.drop run.length)

/-- Reads one given character. -/
def mark? (mark : Char) : List Char → Option (List Char)
  | c :: rest => if c = mark then some rest else none
  | [] => none

/-- Whether a character may separate the parts of a timestamp. -/
def isBlank (c : Char) : Bool := c == ' ' || c == '\t'

/-- Reads an offset up to the end; there may be none, and then no blanks either. -/
def offset? (cs : List Char) : Option (Option Int) :=
  match cs, cs.dropWhile isBlank with
  | [], _ => some none
  | _, ['Z'] => some (some 0)
  | _, sign :: rest =>
    if sign = '+' ∨ sign = '-' then do
      let (hours, rest) ← digits? 1 2 rest
      let minutes ← if rest.isEmpty then some 0 else do
        let (minutes, rest) ← digits? 2 2 (← mark? ':' rest)
        if rest.isEmpty then some minutes else none
      let length : Int := hours * 60 + minutes
      return some (if sign = '-' then -length else length)
    else none
  | _, [] => none

/-- Reads what stands behind a date. -/
def withTime? (date : Timestamp) (cs : List Char) : Option Timestamp := do
  let clock ← match cs with
    | [] => none
    | c :: rest =>
      if c = 'T' ∨ c = 't' then some rest
      else if isBlank c then some (rest.dropWhile isBlank)
      else none
  let (hour, rest) ← digits? 1 2 clock
  let (minute, rest) ← digits? 2 2 (← mark? ':' rest)
  let (second, rest) ← digits? 2 2 (← mark? ':' rest)
  let (fraction, rest) := match rest with
    | '.' :: more => (more.takeWhile isAsciiDigit, more.dropWhile isAsciiDigit)
    | _ => ([], rest)
  return { date with time := some (hour, minute, second, fraction), offset := ← offset? rest }

/-- Reads a timestamp, whose month and day may have one digit each. -/
def ofText? (cs : List Char) : Option Timestamp := do
  let (year, rest) ← digits? 4 4 cs
  let (month, rest) ← digits? 1 2 (← mark? '-' rest)
  let (day, rest) ← digits? 1 2 (← mark? '-' rest)
  let date : Timestamp := { year, month, day }
  if rest.isEmpty then some date else date.withTime? rest

/-- Whether a scalar without a tag counts as a timestamp. -/
def isPlain (cs : List Char) : Bool :=
  (ofText? cs).any fun t => t.time.isSome || cs.length == 10

/-- The date or moment of a timestamp, if there is one.  Of the fraction six digits count. -/
def atom (t : Timestamp) : Except Fault Atom := do
  let date ← Date.make? t.year t.month t.day
  match t.time with
  | none => return .date date
  | some (hour, minute, second, fraction) =>
    let micro := (fraction ++ List.replicate 6 '0').take 6
    return .moment (← Moment.make? date hour minute second (asciiDigitsValue micro) t.offset)

end Timestamp
end Gamebook.Yaml

/-
# Dates and moments

A document may hold a date, or a moment: a date with a time of day and, if one was written, an
offset from universal time.  `Date.make?` and `Moment.make?` refuse what no calendar or clock
shows.
-/
import Gamebook.Fault

namespace Gamebook

/-- A date of the Gregorian calendar, in the years 1 to 9999. -/
structure Date where
  year : Nat
  month : Nat
  day : Nat
deriving DecidableEq, Inhabited

namespace Date

/-- Whether February has 29 days. -/
def isLeap (year : Nat) : Bool :=
  year % 4 == 0 && (year % 100 != 0 || year % 400 == 0)

/-- How many days a month has; none if there is no such month. -/
def daysIn (year month : Nat) : Nat :=
  match month with
  | 1 | 3 | 5 | 7 | 8 | 10 | 12 => 31
  | 4 | 6 | 9 | 11 => 30
  | 2 => if isLeap year then 29 else 28
  | _ => 0

/-- The date with the given numbers, if there is one. -/
def make? (year month day : Nat) : Except Fault Date :=
  if 1 ≤ year ∧ year ≤ 9999 ∧ 1 ≤ day ∧ day ≤ daysIn year month then .ok ⟨year, month, day⟩
  else .error .noSuchDate

/-- How many days lie between the start of the calendar and the start of a year. -/
def daysBefore (year : Nat) : Nat :=
  let y := year - 1
  365 * y + y / 4 - y / 100 + y / 400

/-- The number of the day, counted from the start of the calendar. -/
def ordinal (d : Date) : Nat :=
  (List.range (d.month - 1)).foldl (fun days m => days + daysIn d.year (m + 1))
    (daysBefore d.year) + d.day

end Date

/-- A date with a time of day; the offset from universal time is in minutes. -/
structure Moment where
  date : Date
  hour : Nat
  minute : Nat
  second : Nat
  microsecond : Nat
  offset : Option Int
deriving DecidableEq, Inhabited

namespace Moment

/-- The moment with the given numbers, if there is one; an offset is shorter than a day. -/
def make? (date : Date) (hour minute second microsecond : Nat) (offset : Option Int) :
    Except Fault Moment :=
  if hour < 24 ∧ minute < 60 ∧ second < 60 ∧ microsecond < 1000000
      ∧ offset.all (fun m => decide (m.natAbs < 1440)) then
    .ok ⟨date, hour, minute, second, microsecond, offset⟩
  else .error .noSuchDate

/-- Microseconds since the start of the calendar, by the clock of the moment or, if it has an
offset, by universal time. -/
def instant (m : Moment) : Int :=
  let minutes : Int := (m.date.ordinal * 24 + m.hour) * 60 + m.minute - m.offset.getD 0
  (minutes * 60 + m.second) * 1000000 + m.microsecond

/-- Whether two moments are the same: both with an offset, or both without. -/
def same (a b : Moment) : Bool :=
  a.offset.isSome == b.offset.isSome && a.instant == b.instant

end Moment

/-! ## Text -/

namespace Calendar

/-- A number with at least `width` digits. -/
def padded (width n : Nat) : String :=
  let digits := (toString n).toList
  String.ofList (List.replicate (width - digits.length) '0' ++ digits)

/-- A date as `YYYY-MM-DD`. -/
def dateText (d : Date) : String :=
  padded 4 d.year ++ "-" ++ padded 2 d.month ++ "-" ++ padded 2 d.day

/-- An offset as a sign, hours and minutes. -/
def offsetText (minutes : Int) : String :=
  (if minutes < 0 then "-" else "+") ++ padded 2 (minutes.natAbs / 60) ++ ":"
    ++ padded 2 (minutes.natAbs % 60)

/-- A moment as its date, a space and its time; microseconds only if there are any, the offset
only if it has one. -/
def momentText (m : Moment) : String :=
  dateText m.date ++ " " ++ padded 2 m.hour ++ ":" ++ padded 2 m.minute ++ ":" ++ padded 2 m.second
    ++ (if m.microsecond = 0 then "" else "." ++ padded 6 m.microsecond)
    ++ (m.offset.map offsetText).getD ""

/-- A date as messages show it. -/
def dateShown (d : Date) : String :=
  "datetime.date(" ++ toString d.year ++ ", " ++ toString d.month ++ ", " ++ toString d.day ++ ")"

/-- A length of time in minutes as messages show it: whole days, which may be negative, and
then seconds. -/
def lengthShown (minutes : Int) : String :=
  let days := minutes.fdiv 1440
  let seconds := minutes.fmod 1440 * 60
  let parts := (if days = 0 then [] else ["days=" ++ toString days])
    ++ (if seconds = 0 then [] else ["seconds=" ++ toString seconds])
  "datetime.timedelta(" ++ (if parts.isEmpty then "0" else ", ".intercalate parts) ++ ")"

/-- An offset as messages show it. -/
def offsetShown (minutes : Int) : String :=
  if minutes = 0 then "datetime.timezone.utc"
  else "datetime.timezone(" ++ lengthShown minutes ++ ")"

/-- A moment as messages show it; seconds and microseconds only up to the last that is not
zero. -/
def momentShown (m : Moment) : String :=
  let fields := [m.date.year, m.date.month, m.date.day, m.hour, m.minute]
    ++ (if m.microsecond ≠ 0 then [m.second, m.microsecond]
        else if m.second ≠ 0 then [m.second] else [])
  "datetime.datetime(" ++ ", ".intercalate (fields.map toString)
    ++ ((m.offset.map fun minutes => ", tzinfo=" ++ offsetShown minutes).getD "") ++ ")"

end Calendar
end Gamebook

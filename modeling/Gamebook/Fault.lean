/-
# Faults

What can go wrong while a gamebook runs, apart from content and save data of the wrong shape.
A fault ends the operation that meets it; what was done before it stays done.
-/

namespace Gamebook

/-- A cause that ends an operation. -/
inductive Fault where
  /-- A number is too large for what it was to become: an integer has no double near it,
  infinity was to become an integer, or a code does not fit into a machine word. -/
  | tooLarge
  /-- The result that is no number was to become an integer. -/
  | noInteger
  /-- An integer has more digits than are read or written. -/
  | tooManyDigits
  /-- A text was taken for an integer and is none. -/
  | malformedInteger
  /-- A text was taken for a decimal number and is none. -/
  | malformedNumber
  /-- A text without any digits was taken for a number. -/
  | emptyNumeral
  /-- A text was taken for a truth value and is none. -/
  | noTruthValue
  /-- A text was taken for a date or a moment and is none. -/
  | noTimestamp
  /-- A mapping was taken for a date or a moment. -/
  | noText
  /-- A date or a time of day that does not exist. -/
  | noSuchDate
  /-- A code beyond the last character. -/
  | noSuchCharacter
  /-- Bytes that are no UTF-8 text. -/
  | notUtf8
  /-- Half of a surrogate pair was to be written to a file. -/
  | loneHalf
  /-- Something is nested too deeply to be read or shown. -/
  | tooDeep
  /-- A path, or a name in it, is too long to be looked up. -/
  | pathTooLong
  /-- A path that is no path at all was to be opened. -/
  | badPath
deriving DecidableEq, Repr, Inhabited

/-- The wording of a fault. -/
def Fault.message : Fault → String
  | .tooLarge => "number too large"
  | .noInteger => "no integer"
  | .tooManyDigits => "too many digits"
  | .malformedInteger => "malformed integer"
  | .malformedNumber => "malformed number"
  | .emptyNumeral => "number without digits"
  | .noTruthValue => "no truth value"
  | .noTimestamp => "no date or time"
  | .noText => "no text"
  | .noSuchDate => "no such date or time"
  | .noSuchCharacter => "no such character"
  | .notUtf8 => "no UTF-8 text"
  | .loneHalf => "half of a surrogate pair"
  | .tooDeep => "nested too deeply"
  | .pathTooLong => "path too long"
  | .badPath => "no path"

end Gamebook

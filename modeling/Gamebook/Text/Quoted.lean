/-
# Text in quotes

How a message shows a text: between single quotes, or between double quotes if the text has a
single quote and no double one.  The backslash, the quote itself and the characters that cannot
be shown are escaped; everything else stands for itself.
-/
import Gamebook.Text.Basic
import Gamebook.Text.Printable

namespace Gamebook.Text

/-- The digit of a number below 16. -/
def hexDigit (n : Nat) : Char := "0123456789abcdef".toList.getD n '0'

/-- A number in base 16 with exactly `width` digits, the leading ones first. -/
def hexDigits : Nat → Nat → List Char
  | 0, _ => []
  | width + 1, n => hexDigits width (n / 16) ++ [hexDigit (n % 16)]

/-- A code as it is written: with two digits below 256, with four below 65536, else with
eight. -/
def codeEscape (code : Nat) : List Char :=
  if code < 0x100 then '\\' :: 'x' :: hexDigits 2 code
  else if code < 0x10000 then '\\' :: 'u' :: hexDigits 4 code
  else '\\' :: 'U' :: hexDigits 8 code

/-- A character as it is written between the quotes `quote`. -/
def quotedChar (quote c : Char) : List Char :=
  if c = '\\' ∨ c = quote then ['\\', c]
  else if c = '\n' then ['\\', 'n']
  else if c = '\r' then ['\\', 'r']
  else if c = '\t' then ['\\', 't']
  else if isPrintable c then [c]
  else codeEscape c.toNat

/-- A letter as it is written between the quotes `quote`. -/
def quotedLetter (quote : Char) : Letter → List Char
  | .char c => quotedChar quote c
  | letter => codeEscape letter.code

/-- The quote for a text: the double one only for a text with single quotes and no double ones. -/
def quoteFor (cs : List Char) : Char :=
  if '\'' ∈ cs ∧ '"' ∉ cs then '"' else '\''

/-- A text as messages show it. -/
def quoted (text : Text) : String :=
  let quote := quoteFor text.toChars
  String.ofList (quote :: text.flatMap (quotedLetter quote) ++ [quote])

end Gamebook.Text

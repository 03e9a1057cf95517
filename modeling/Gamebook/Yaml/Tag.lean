/-
# Tags

A tag tells what a node stands for.  A plain scalar without a tag gets one by the way it is
written: `Tag.ofSpelling` knows the spellings of null, the truth values, integers, decimal
numbers and timestamps, and takes everything else for text.  With the tag `!` any scalar gets its
tag in this way; one line feed at its end does not count then.
-/
import Gamebook.Text.Split
import Gamebook.Yaml.Cursor
import Gamebook.Yaml.Timestamp

namespace Gamebook.Yaml

open Text

/-- What a node stands for. -/
inductive Tag where
  | null
  | bool
  | int
  | float
  | timestamp
  | binary
  | str
  | seq
  | omap
  | pairs
  | map
  | set
  /-- The key under which other mappings are merged in. -/
  | merge
  /-- The key of a mapping's own value. -/
  | value
  | unknown
deriving DecidableEq, Repr

namespace Tag

/-- What the names of the common tags start with. -/
def common : String := "tag:yaml.org,2002:"

/-- The tag of a full name. -/
def ofName (name : String) : Tag :=
  match [("null", null), ("bool", bool), ("int", int), ("float", float),
    ("timestamp", timestamp), ("binary", binary), ("str", str), ("seq", seq), ("omap", omap),
    ("pairs", pairs), ("map", map), ("set", set), ("merge", merge),
    ("value", value)].find? fun known => common ++ known.1 == name with
  | some (_, tag) => tag
  | none => unknown

/-- Whether a tag is one of collections. -/
def isCollection : Tag → Bool
  | seq | omap | pairs | map | set => true
  | _ => false

/-- Whether a tag is one of scalars. -/
def isScalar : Tag → Bool
  | null | bool | int | float | timestamp | binary | str => true
  | _ => false

/-! ## Spellings -/

/-- The spellings of the truth values. -/
def truthWords : List String :=
  ["yes", "Yes", "YES", "no", "No", "NO", "true", "True", "TRUE", "false", "False", "FALSE",
   "on", "On", "ON", "off", "Off", "OFF"]

/-- The spellings of null, besides no text at all. -/
def nullWords : List String := ["~", "null", "Null", "NULL"]

/-- Texts that have a meaning in no document. -/
def voidWords : List String := ["!", "&", "*"]

/-- A text without a sign at its front. -/
def unsigned : List Char → List Char
  | '+' :: rest | '-' :: rest => rest
  | cs => cs

/-- A digit or an underscore. -/
def isDigitOrLine (c : Char) : Bool := isAsciiDigit c || c == '_'

/-- One or more characters, all of which satisfy `p`. -/
def isRun (p : Char → Bool) (cs : List Char) : Bool := !cs.isEmpty && cs.all p

/-- A digit, and then digits and underscores. -/
def isNumeral : List Char → Bool
  | c :: rest => isAsciiDigit c && rest.all isDigitOrLine
  | [] => false

/-- A number below sixty: one digit, or two of which the first is at most five. -/
def isSixtieth : List Char → Bool
  | [c] => isAsciiDigit c
  | [tens, c] => '0' ≤ tens && tens ≤ '5' && isAsciiDigit c
  | _ => false

/-- An integer: in base 2, 8, 10 or 16, or in base 60 with colons. -/
def isInteger (cs : List Char) : Bool :=
  match unsigned cs with
  | ['0'] => true
  | '0' :: 'b' :: rest => isRun (fun c => c == '0' || c == '1' || c == '_') rest
  | '0' :: 'x' :: rest => isRun (fun c => (hexValue? c).isSome || c == '_') rest
  | '0' :: rest => isRun (fun c => ('0' ≤ c && c ≤ '7') || c == '_') rest
  | body => match splitAt ':' body with
    | first :: others => isNumeral first && others.all isSixtieth
    | [] => false

/-- Nothing, or an exponent with its sign. -/
def isExponent : List Char → Bool
  | [] => true
  | mark :: sign :: digits =>
    (mark == 'e' || mark == 'E') && (sign == '+' || sign == '-') && isRun isAsciiDigit digits
  | [_] => false

/-- What may follow the point of a decimal number. -/
def isFraction (cs : List Char) : Bool := isExponent (cs.dropWhile isDigitOrLine)

/-- A decimal number: with a point and perhaps an exponent, in base 60 with colons and a point,
or one of the values that are not finite. -/
def isDecimal (cs : List Char) : Bool :=
  let body := unsigned cs
  let whole := body.takeWhile (· ≠ '.')
  match body.dropWhile (· ≠ '.') with
  | [] => false
  | _ :: rest =>
    if whole.isEmpty then
      let word := String.ofList rest
      ["inf", "Inf", "INF"].contains word
        || (body == cs && (["nan", "NaN", "NAN"].contains word
          || (rest.head?.any isAsciiDigit && isFraction rest)))
    else match splitAt ':' whole with
      | [first] => isNumeral first && isFraction rest
      | first :: others => isNumeral first && others.all isSixtieth && rest.all isDigitOrLine
      | [] => false

/-- The tag of a spelling that is not empty. -/
def ofWord (cs : List Char) : Tag :=
  let word := String.ofList cs
  if truthWords.contains word then bool
  else if isDecimal cs then float
  else if isInteger cs then int
  else if word = "<<" then merge
  else if nullWords.contains word then null
  else if Timestamp.isPlain cs then timestamp
  else if word = "=" then value
  else if voidWords.contains word then unknown
  else str

/-- A text without the line feed at its end, if there is one. -/
def dropLineFeed (cs : List Char) : List Char :=
  if cs.getLast? = some '\n' then cs.dropLast else cs

/-- **The tag of a scalar by its spelling.** -/
def ofSpelling (text : Text) : Tag :=
  if text.isEmpty then null else ofWord (dropLineFeed text.toChars)

end Tag
end Gamebook.Yaml

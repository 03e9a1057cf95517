/-
# Tokens

The pieces that a YAML text consists of.  Indentation shows as tokens that open and close
blocks, and a key shows as a token of its own in front of its text.  The last token may be
`broken`: the text is no YAML from there on.
-/
import Gamebook.Datum.Decoder
import Gamebook.Text.Basic

namespace Gamebook.Yaml

/-- A line at the head of a document that begins with a percent sign. -/
inductive Directive where
  /-- The version of the language, by its first number. -/
  | version (major : Nat)
  /-- What a handle of tags stands for. -/
  | handle (name meaning : String)
  | other

/-- A piece of a YAML text. -/
inductive Token where
  | directive (directive : Directive)
  | documentStart
  | documentEnd
  | blockSequence
  | blockMapping
  | blockEnd
  | openList
  | closeList
  | openMap
  | closeMap
  | dash
  | comma
  | key
  | value
  | alias (name : String)
  | anchor (name : String)
  | tag (handle : Option String) (suffix : String)
  /-- A scalar; a plain one may stand for something else than a text. -/
  | scalar (text : Text) (plain : Bool)
  | broken (error : DecodeError)

end Gamebook.Yaml

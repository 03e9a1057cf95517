/-
# Texts

A text of a story or of save data is a sequence of letters.  A letter is a character, or half of
a surrogate pair without its other half: a document can name such a half by its code, although
no file can hold it.

A piece of program text is a text by `Text.ofString`.  The grammars of numbers and names know
characters only; `Text.toChars` shows them U+FFFD for a half, which occurs in none of them.
-/

namespace Gamebook

/-- A letter of a text. -/
inductive Letter where
  | char (c : Char)
  /-- Half of a surrogate pair; its code is U+D800 and `offset`. -/
  | half (offset : Fin 2048)
deriving DecidableEq, Repr, Inhabited

namespace Letter

/-- The code of a letter. -/
def code : Letter → Nat
  | .char c => c.toNat
  | .half offset => 0xD800 + offset.val

/-- The letter of a code, unless the code is beyond the last letter. -/
def ofCode? (code : Nat) : Option Letter :=
  if h : 0xD800 ≤ code ∧ code < 0xE000 then some (.half ⟨code - 0xD800, by omega⟩)
  else if code < 0x110000 then some (.char (Char.ofNat code))
  else none

/-- A letter as a character; U+FFFD stands for a half. -/
def toChar : Letter → Char
  | .char c => c
  | .half _ => '\uFFFD'

/-- Whether a letter is a character that satisfies `p`. -/
def isChar (p : Char → Bool) : Letter → Bool
  | .char c => p c
  | .half _ => false

end Letter

/-- A text: its letters in order. -/
abbrev Text := List Letter

namespace Text

/-- The text of some characters. -/
def ofChars (cs : List Char) : Text := cs.map .char

/-- A string as a text. -/
def ofString (s : String) : Text := ofChars s.toList

instance : Coe String Text := ⟨ofString⟩

/-- The characters of a text. -/
def toChars (t : Text) : List Char := t.map Letter.toChar

/-- A text as a string. -/
def asString (t : Text) : String := String.ofList t.toChars

/-- Whether a text comes before another one or is the same, by the codes of their letters. -/
def le : Text → Text → Bool
  | [], _ => true
  | _ :: _, [] => false
  | a :: as, b :: bs => if a.code = b.code then le as bs else a.code < b.code

/-- Texts one after another, with a separator between them. -/
def join (separator : Text) (parts : List Text) : Text := separator.intercalate parts

@[simp] theorem toChars_ofChars (cs : List Char) : (ofChars cs).toChars = cs := by
  induction cs with
  | nil => rfl
  | cons c rest ih => simpa [ofChars, toChars, Letter.toChar] using ih

theorem ofChars_append (cs ds : List Char) : ofChars (cs ++ ds) = ofChars cs ++ ofChars ds :=
  List.map_append

end Text
end Gamebook

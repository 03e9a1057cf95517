/-
# Texts that come in pieces

A file is read piece by piece, no further than its reader looks.  A piece that is no text, or in
which a character stands that no YAML text may contain, is met only by a reader who gets there:
what is wrong in front of it is found first.

A `Script` is the part of a text in front of the first such piece, with what is met behind it.
The first two pieces are read together, before anything else.
-/
import Gamebook.Datum.Decoder
import Gamebook.Text.LineEnd
import Gamebook.Text.Utf8

namespace Gamebook.Yaml

/-- Whether a character may stand in a YAML text at all. -/
def isAllowed (c : Char) : Bool :=
  let code := c.toNat
  code == 0x09 || code == 0x0A || code == 0x0D || (0x20 ≤ code && code ≤ 0x7E) || code == 0x85
    || (0xA0 ≤ code && code ≤ 0xFFFD) || 0x10000 ≤ code

/-- The readable part of a text. -/
structure Script where
  chars : List Char
  /-- What is met behind the last character; nothing at the end of the text. -/
  wall : Option DecodeError := none

namespace Script

/-- How many characters a piece has. -/
def pieceSize : Nat := 4096

/-- The least number of bytes that are taken from a file at a time. -/
def chunkSize : Nat := 8192

/-- How many characters stand in front of the piece that is the `n`-th from zero, or of the first
two. -/
def frontOf (n : Nat) : Nat := if n < 2 then 0 else n * pieceSize

/-- The script of a text with `wall` behind it: the first piece with a character that is not
allowed is a wall itself. -/
def ofChars (cs : List Char) (wall : Option DecodeError) : Script :=
  match cs.findIdx? (!isAllowed ·) with
  | some place => ⟨cs.take (frontOf (place / pieceSize)), some .unreadable⟩
  | none => ⟨cs, wall⟩

/-! ## Bytes that are no text -/

/-- The characters that stand in front of a failure. -/
def charsBefore (content : Bytes) (failure : Utf8.Failure) : List Char :=
  ((Utf8.decode (content.take failure.position)).toOption).getD []

/-- How many characters the first bytes of a file give.  A carriage return at their end is held
back, because a line feed may follow. -/
def countIn (content : Bytes) (taken : Nat) : Nat :=
  let front := content.take taken
  let cs := match Utf8.decode front with
    | .ok cs => cs
    | .error failure => charsBefore front failure
  (Text.withLineFeeds (if cs.getLast? = some '\r' then cs.dropLast else cs)).length

/-- Whether bytes begin like half of a surrogate pair. -/
def startsHalf : Bytes → Bool
  | 0xED :: b :: _ => 0xA0 ≤ b && b ≤ 0xBF
  | _ => false

/-- Whether the failure is met when `size` further bytes are taken.  What begins like half of a
surrogate pair is looked at as a whole. -/
def isMet (content : Bytes) (failure : Utf8.Failure) (taken size : Nat) : Bool :=
  let seen (count : Nat) := failure.position + count < min (taken + size) content.length
  match failure.cause with
  | .badStart => seen 0
  | .badContinuation =>
    if startsHalf (content.drop failure.position) then seen 2 || content.length ≤ taken
    else seen failure.read.length
  | .cutOff => content.length ≤ taken

/-- How many pieces were read when the failure is met, after `pieces` of them; `taken` bytes were
taken.  The last chunk had `bytes` bytes, which gave `chars` characters: the next one is larger
if it needs more bytes than usual to fill a piece. -/
def piecesBefore (content : Bytes) (failure : Utf8.Failure) :
    Nat → (pieces taken bytes chars : Nat) → Nat
  | 0, pieces, _, _, _ => pieces
  | fuel + 1, pieces, taken, bytes, chars =>
    let count := countIn content taken
    let wanted := (pieces + 1) * pieceSize - count
    if wanted = 0 then piecesBefore content failure fuel (pieces + 1) taken bytes chars
    else
      let size := max chunkSize (wanted * bytes / chars)
      if isMet content failure taken size then pieces
      else
        let next := min (taken + size) content.length
        piecesBefore content failure fuel pieces next (next - taken)
          (countIn content next - count)

/-- **The script of a file.** -/
def ofBytes (content : Bytes) : Script :=
  match Utf8.decode content with
  | .ok cs => ofChars (Text.withLineFeeds cs) none
  | .error failure =>
    let pieces := piecesBefore content failure (content.length + 2) 0 0 0 0
    let cs := Text.withLineFeeds (charsBefore content failure)
    ofChars (cs.take (frontOf pieces)) (some (.fault .notUtf8))

end Script
end Gamebook.Yaml

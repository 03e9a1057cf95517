/-
# UTF-8

`Utf8.encode` writes a text as bytes, `Utf8.decode` reads bytes as text.  A byte below 128 is a
character; any other one announces how many bytes of the form `10xxxxxx` belong to it.  The
first of these is restricted further after some bytes, so that a character has one form only
and no surrogate has any.
-/
import Gamebook.Text.Quoted

namespace Gamebook

/-- The content of a file. -/
abbrev Bytes := List UInt8

namespace Utf8

/-- Why bytes are no text. -/
inductive Cause where
  /-- A byte that cannot begin a character. -/
  | badStart
  /-- A byte that cannot go on with the character that was begun. -/
  | badContinuation
  /-- A character that was begun when the bytes ended. -/
  | cutOff
deriving DecidableEq, Repr

/-- A cause with the place where the character began, and the bytes that were read of it. -/
structure Failure where
  cause : Cause
  position : Nat
  read : Bytes
deriving DecidableEq, Repr

/-- The wording of a failure. -/
def Failure.message (f : Failure) : String :=
  let place := match f.read with
    | [b] =>
      "byte 0x" ++ String.ofList (Text.hexDigits 2 b.toNat)
        ++ " in position " ++ toString f.position
    | bytes => "bytes in position " ++ toString f.position ++ "-"
        ++ toString (f.position + bytes.length - 1)
  let reason := match f.cause with
    | .badStart => "invalid start byte"
    | .badContinuation => "invalid continuation byte"
    | .cutOff => "unexpected end of data"
  "'utf-8' codec can't decode " ++ place ++ ": " ++ reason

/-- The bytes of a text. -/
def encode (cs : List Char) : Bytes := cs.flatMap String.utf8EncodeChar

/-- How many bytes go on with a character that begins with `b`, and between which bounds the
first of them lies. -/
def continuation? (b : UInt8) : Option (Nat × UInt8 × UInt8) :=
  if b < 0x80 then some (0, 0, 0)
  else if b < 0xC2 then none
  else if b < 0xE0 then some (1, 0x80, 0xBF)
  else if b = 0xE0 then some (2, 0xA0, 0xBF)
  else if b = 0xED then some (2, 0x80, 0x9F)
  else if b < 0xF0 then some (2, 0x80, 0xBF)
  else if b = 0xF0 then some (3, 0x90, 0xBF)
  else if b = 0xF4 then some (3, 0x80, 0x8F)
  else if b < 0xF4 then some (3, 0x80, 0xBF)
  else none

/-- The bits that a first byte contributes, when `count` bytes go on. -/
def leadBits (count : Nat) (b : UInt8) : Nat :=
  match count with
  | 0 => b.toNat
  | 1 => b.toNat % 32
  | 2 => b.toNat % 16
  | _ => b.toNat % 8

/-- What is known of a character of which some bytes were read. -/
structure Begun where
  /-- How many bytes are still to come. -/
  missing : Nat
  /-- Bounds of the next one. -/
  low : UInt8
  high : UInt8
  /-- The bits read so far. -/
  code : Nat
  /-- Where the character began. -/
  position : Nat
  /-- Its bytes so far, the last one first. -/
  read : Bytes

/-- Reads bytes as text, from a position on; `begun` is a character that is still open. -/
def decodeFrom : Nat → Option Begun → Bytes → Except Failure (List Char)
  | _, none, [] => .ok []
  | _, some begun, [] => .error ⟨.cutOff, begun.position, begun.read.reverse⟩
  | position, none, b :: rest =>
    match continuation? b with
    | none => .error ⟨.badStart, position, [b]⟩
    | some (0, _) => (decodeFrom (position + 1) none rest).map (Char.ofNat b.toNat :: ·)
    | some (count, low, high) =>
      decodeFrom (position + 1) (some ⟨count, low, high, leadBits count b, position, [b]⟩) rest
  | position, some begun, b :: rest =>
    if b < begun.low || begun.high < b then
      .error ⟨.badContinuation, begun.position, begun.read.reverse⟩
    else
      let code := begun.code * 64 + b.toNat % 64
      if begun.missing ≤ 1 then
        (decodeFrom (position + 1) none rest).map (Char.ofNat code :: ·)
      else
        decodeFrom (position + 1)
          (some ⟨begun.missing - 1, 0x80, 0xBF, code, begun.position, b :: begun.read⟩) rest

/-- Reads bytes as text. -/
def decode (bytes : Bytes) : Except Failure (List Char) := decodeFrom 0 none bytes

end Utf8
end Gamebook

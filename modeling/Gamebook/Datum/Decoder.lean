/-
# Decoders

A decoder turns the content of a file into a document.  It may find the content unreadable,
which is reported for the file, or meet a fault.
-/
import Gamebook.Fault

namespace Gamebook

/-- Why a file has no document: it cannot be read, or a fault arises in it. -/
inductive DecodeError where
  | unreadable
  | fault (fault : Fault)
deriving DecidableEq

/-- How the content of a file becomes a document. -/
abbrev Decoder (α δ : Type) := α → Except DecodeError δ

end Gamebook

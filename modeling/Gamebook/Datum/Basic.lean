/-
# Decoded documents

What the documents of a story and save files decode to.  An `Atom` is a value without parts, and
may be the key of an entry; a `Datum` is built of atoms by lists and mappings.  A mapping keeps
its keys in order of first arrival; two keys are one if `Atom.same` says so, by which truth
values and numbers of equal value agree.  A NaN equals nothing, so each is a key of its own.
-/
import Gamebook.Datum.Calendar
import Gamebook.Variable.Value

namespace Gamebook

/-! ## 1. Atoms -/

/-- A value without parts. -/
inductive Atom where
  | null
  | bool (b : Bool)
  | number (n : Number)
  | text (t : Text)
  | date (d : Date)
  | moment (m : Moment)
  | bytes (bs : List UInt8)
deriving DecidableEq

namespace Atom

instance : Inhabited Atom := ⟨.null⟩

/-- The number that a key counts as among keys: truth values are one and zero. -/
def keyNumber? : Atom → Option Number
  | .bool b => some (.ofBool b)
  | .number n => some n
  | _ => none

/-- Whether this is the double that is no number. -/
def isNaN : Atom → Bool
  | .number n => n.isNaN
  | _ => false

/-- Whether two keys of a mapping are one key. -/
def same (a b : Atom) : Bool :=
  match a.keyNumber?, b.keyNumber? with
  | some m, some n => m.same n
  | none, none => match a, b with
    | .null, .null => true
    | .text s, .text t => s == t
    | .date d, .date e => d == e
    | .moment m, .moment n => m.same n
    | .bytes bs, .bytes cs => bs == cs
    | _, _ => false
  | _, _ => false

/-- The atom of a variable's value. -/
def ofValue : Value → Atom
  | .null => .null
  | .bool b => .bool b
  | .number n => .number n
  | .text t => .text t

/-- The variable's value that an atom is, if it is one. -/
def toValue? : Atom → Option Value
  | .null => some .null
  | .bool b => some (.bool b)
  | .number n => some (.number n)
  | .text t => some (.text t)
  | _ => none

end Atom

/-! ## 2. Entries of mappings -/

/-- The entries of a mapping: keys with their values. -/
abbrev Fields (δ : Type) := List (Atom × δ)

namespace Fields

variable {δ : Type}

/-- Writes a value into the entries of a mapping: a key that is there keeps its place and its
spelling, a new one goes last. -/
def put (key : Atom) (value : δ) : Fields δ → Fields δ
  | [] => [(key, value)]
  | entry :: rest =>
    if entry.1.same key then (entry.1, value) :: rest else entry :: put key value rest

/-- The mapping that arises when entries are written one after another. -/
def ofEntries (entries : List (Atom × δ)) : Fields δ :=
  entries.foldl (fun written entry => put entry.1 entry.2 written) []

/-- The value of a name among the entries of a mapping. -/
def named? (fields : Fields δ) (name : Text) : Option δ :=
  (fields.find? fun entry => entry.1.same (.text name)).map Prod.snd

end Fields

/-! ## 3. Data -/

/-- A decoded document or a part of one. -/
inductive Datum where
  | atom (a : Atom)
  | list (items : List Datum)
  | map (fields : List (Atom × Datum))

namespace Datum

instance : Inhabited Datum := ⟨.atom .null⟩

/-- The datum of a text. -/
def text (t : Text) : Datum := .atom (.text t)

/-- The datum of an integer. -/
def int (n : Int) : Datum := .atom (.number (.int n))

/-- The number that a datum counts as, if any. -/
def toNumber? : Datum → Option Number
  | .atom a => a.toValue?.bind Value.toNumber?
  | _ => none

end Datum
end Gamebook

/-
# Tables in order of arrival

A table holds one value per name and remembers the order in which the names first arrived.
Writing to a name that is present keeps its place; a new name goes last.  `Table.find?` is the
view through which tables are compared: `find?_put` says what a write does to it, and
`map_fst_putEntry` what it does to the order.
-/
import Gamebook.Text.Basic

namespace Gamebook

variable {α : Type}

/-! ## 1. Entries -/

/-- Writes a value into a list of named values: in place if the name occurs, else at the end. -/
def putEntry (name : Text) (value : α) : List (Text × α) → List (Text × α)
  | [] => [(name, value)]
  | entry :: rest =>
    if entry.1 = name then (name, value) :: rest else entry :: putEntry name value rest

/-- The value of a name in a list of named values. -/
def findEntry (name : Text) : List (Text × α) → Option α
  | [] => none
  | entry :: rest => if entry.1 = name then some entry.2 else findEntry name rest

theorem map_fst_putEntry (name : Text) (value : α) (entries : List (Text × α)) :
    (putEntry name value entries).map Prod.fst =
      if name ∈ entries.map Prod.fst then entries.map Prod.fst
      else entries.map Prod.fst ++ [name] := by
  induction entries with
  | nil => rfl
  | cons entry rest ih =>
    by_cases h : entry.1 = name
    · simp [putEntry, h]
    · have h' : ¬ name = entry.1 := fun e => h e.symm
      simp only [putEntry, h, if_false, List.map_cons, ih, List.mem_cons, h', false_or]
      split <;> rfl

theorem nodup_putEntry {name : Text} {value : α} {entries : List (Text × α)}
    (h : (entries.map Prod.fst).Nodup) : ((putEntry name value entries).map Prod.fst).Nodup := by
  rw [map_fst_putEntry]
  split
  · exact h
  · rename_i hn
    rw [List.nodup_append]
    exact ⟨h, by simp, fun a ha b hb e => hn (by simp at hb; rw [← hb, ← e]; exact ha)⟩

theorem findEntry_putEntry (name other : Text) (value : α) (entries : List (Text × α)) :
    findEntry other (putEntry name value entries) =
      if other = name then some value else findEntry other entries := by
  induction entries with
  | nil =>
    by_cases h : name = other
    · simp [putEntry, findEntry, h]
    · have h' : ¬ other = name := fun e => h e.symm
      simp [putEntry, findEntry, h, h']
  | cons entry rest ih =>
    by_cases he : entry.1 = name
    · by_cases h : other = name
      · simp [putEntry, findEntry, he, h]
      · have h' : ¬ name = other := fun e => h e.symm
        simp [putEntry, findEntry, he, h, h']
    · by_cases h : entry.1 = other
      · have h' : ¬ other = name := fun e => he (h.trans e)
        simp [putEntry, findEntry, h, h']
      · simp only [putEntry, he, if_false, findEntry, h, ih]

/-! ## 2. Tables -/

/-- A table: named values in order of first arrival, each name once. -/
structure Table (α : Type) where
  entries : List (Text × α)
  distinct : (entries.map Prod.fst).Nodup
deriving DecidableEq

namespace Table

/-- The table without entries. -/
def empty : Table α := ⟨[], List.nodup_nil⟩

instance : Inhabited (Table α) := ⟨empty⟩

/-- The names in order of first arrival. -/
def names (t : Table α) : List Text := t.entries.map Prod.fst

/-- The value of a name, if the table has one. -/
def find? (t : Table α) (name : Text) : Option α := findEntry name t.entries

/-- Whether the table has a value for a name. -/
def contains (t : Table α) (name : Text) : Bool := (t.find? name).isSome

/-- Writes the value of a name. -/
def put (t : Table α) (name : Text) (value : α) : Table α :=
  ⟨putEntry name value t.entries, nodup_putEntry t.distinct⟩

/-- The table that arises when named values are written one after another. -/
def ofList (entries : List (Text × α)) : Table α :=
  entries.foldl (fun t entry => t.put entry.1 entry.2) empty

theorem find?_put (t : Table α) (name other : Text) (value : α) :
    (t.put name value).find? other = if other = name then some value else t.find? other :=
  findEntry_putEntry name other value t.entries

@[simp] theorem find?_put_self (t : Table α) (name : Text) (value : α) :
    (t.put name value).find? name = some value := by
  rw [find?_put, if_pos rfl]

end Table
end Gamebook

/-
# Writing tables

What a table holds after some writes.  Writing never loses a name (`contains_ofList`), and a table
that is written down entry by entry is written back as it was, order and all (`ofList_entries`).
What holds of all that is written holds of the table (`all_ofList`).  Names stay in order of first
arrival (`names_ofList`), and each of them has what was last written for it (`find?_ofList`).
-/
import Gamebook.Table

namespace Gamebook

variable {α : Type}

/-- A new name goes last. -/
theorem putEntry_of_not_mem {name : Text} {entries : List (Text × α)}
    (new : name ∉ entries.map Prod.fst) (value : α) :
    putEntry name value entries = entries ++ [(name, value)] := by
  induction entries with
  | nil => rfl
  | cons entry rest ih =>
    rw [List.map_cons, List.mem_cons, not_or] at new
    rw [putEntry, if_neg fun same => new.1 same.symm, ih new.2]
    rfl

theorem putEntry_putEntry (name : Text) (first second : α) (entries : List (Text × α)) :
    putEntry name second (putEntry name first entries) = putEntry name second entries := by
  induction entries with
  | nil => simp [putEntry]
  | cons entry rest ih => by_cases same : entry.1 = name <;> simp [putEntry, same, ih]

theorem putEntry_eq_self {name : Text} {value : α} {entries : List (Text × α)}
    (found : findEntry name entries = some value) : putEntry name value entries = entries := by
  induction entries with
  | nil => contradiction
  | cons entry rest ih =>
    by_cases same : entry.1 = name
    · simp only [findEntry, same, if_true, Option.some.injEq] at found
      simp [putEntry, ← same, ← found]
    · simp only [findEntry, same, if_false] at found
      simp [putEntry, same, ih found]

namespace Table

/-! ## 1. Names -/

theorem contains_put (t : Table α) (name other : Text) (value : α) :
    (t.put name value).contains other = true ↔ other = name ∨ t.contains other = true := by
  unfold contains
  rw [find?_put]
  by_cases h : other = name <;> simp [h]

/-- Writing never loses a name. -/
theorem contains_put_of_contains {t : Table α} {other : Text} (h : t.contains other = true)
    (name : Text) (value : α) : (t.put name value).contains other = true :=
  (contains_put t name other value).mpr (.inr h)

theorem contains_foldl_put (entries : List (Text × α)) (t : Table α) (name : Text) :
    (entries.foldl (fun t entry => t.put entry.1 entry.2) t).contains name = true ↔
      name ∈ entries.map Prod.fst ∨ t.contains name = true := by
  induction entries generalizing t with
  | nil => simp
  | cons entry rest ih =>
    rw [List.foldl_cons, ih, contains_put, List.map_cons, List.mem_cons]
    constructor
    · rintro (h | h | h)
      · exact .inl (.inr h)
      · exact .inl (.inl h)
      · exact .inr h
    · rintro ((h | h) | h)
      · exact .inr (.inl h)
      · exact .inl h
      · exact .inr (.inr h)

theorem contains_ofList (entries : List (Text × α)) (name : Text) :
    (ofList entries).contains name = true ↔ name ∈ entries.map Prod.fst := by
  unfold ofList
  rw [contains_foldl_put]
  simp [contains, find?, empty, findEntry]

/-! ## 2. Entries -/

/-- Writing names that are all new, and each once, adds them in their order. -/
theorem entries_foldl_put (entries : List (Text × α)) (t : Table α)
    (new : ((t.entries ++ entries).map Prod.fst).Nodup) :
    (entries.foldl (fun t entry => t.put entry.1 entry.2) t).entries = t.entries ++ entries := by
  induction entries generalizing t with
  | nil => simp
  | cons entry rest ih =>
    have first : entry.1 ∉ t.entries.map Prod.fst := by
      rw [List.map_append, List.nodup_append] at new
      exact fun mem => new.2.2 entry.1 mem entry.1 (by simp) rfl
    have put : (t.put entry.1 entry.2).entries = t.entries ++ [entry] :=
      putEntry_of_not_mem first entry.2
    rw [List.foldl_cons, ih, put, List.append_assoc]
    · rfl
    · rwa [put, List.append_assoc]

/-- A table is its entries. -/
theorem eq_of_entries {t u : Table α} (h : t.entries = u.entries) : t = u := by
  cases t
  cases u
  cases h
  rfl

/-- **Writing the entries of a table gives the table.** -/
theorem ofList_entries (t : Table α) : ofList t.entries = t :=
  eq_of_entries (entries_foldl_put t.entries empty t.distinct)

/-! ## 3. What holds of all entries -/

variable {holds : Text → α → Prop} {t : Table α} {name : Text} {value : α}

/-- Something holds of every entry of a table. -/
def All (holds : Text → α → Prop) (t : Table α) : Prop :=
  ∀ entry ∈ t.entries, holds entry.1 entry.2

theorem all_empty : All holds (empty : Table α) := nofun

theorem mem_putEntry {entries : List (Text × α)} {entry : Text × α}
    (h : entry ∈ putEntry name value entries) : entry = (name, value) ∨ entry ∈ entries := by
  induction entries with
  | nil => exact .inl (List.mem_singleton.mp h)
  | cons first rest ih =>
    unfold putEntry at h
    split at h
    · rcases List.mem_cons.mp h with new | old
      · exact .inl new
      · exact .inr (List.mem_cons_of_mem _ old)
    · rcases List.mem_cons.mp h with old | later
      · exact .inr (old ▸ List.mem_cons_self ..)
      · exact (ih later).imp id (List.mem_cons_of_mem _)

theorem All.put (h : t.All holds) (new : holds name value) : (t.put name value).All holds := by
  intro entry mem
  rcases mem_putEntry mem with rfl | old
  · exact new
  · exact h entry old

theorem all_foldl_put {entries : List (Text × α)} (h : t.All holds)
    (new : ∀ entry ∈ entries, holds entry.1 entry.2) :
    (entries.foldl (fun t entry => t.put entry.1 entry.2) t).All holds := by
  induction entries generalizing t with
  | nil => exact h
  | cons entry rest ih =>
    exact ih (h.put (new entry (List.mem_cons_self ..))) fun entry mem =>
      new entry (List.mem_cons_of_mem _ mem)

/-- **What holds of all that is written holds of the table.** -/
theorem all_ofList {entries : List (Text × α)} (new : ∀ entry ∈ entries, holds entry.1 entry.2) :
    (ofList entries).All holds :=
  all_foldl_put all_empty new

theorem mem_of_findEntry {entries : List (Text × α)} (found : findEntry name entries = some value) :
    (name, value) ∈ entries := by
  induction entries with
  | nil => contradiction
  | cons entry rest ih =>
    unfold findEntry at found
    split at found
    · rename_i same
      rw [← same, ← Option.some.inj found]
      exact List.mem_cons_self ..
    · exact List.mem_cons_of_mem _ (ih found)

theorem All.of_find? (h : t.All holds) (found : t.find? name = some value) : holds name value :=
  h (name, value) (mem_of_findEntry found)

theorem All.imp {holds' : Text → α → Prop} (h : t.All holds)
    (imp : ∀ name value, holds name value → holds' name value) : t.All holds' :=
  fun entry mem => imp _ _ (h entry mem)

/-! ## 4. First arrivals and last writes -/

/-- Some names, and behind them those that come new, each where it first comes. -/
def arrivals (old coming : List Text) : List Text := old ++ (coming.removeAll old).eraseDups

theorem arrivals_nil (old : List Text) : arrivals old [] = old := by
  simp [arrivals]

theorem nil_arrivals (coming : List Text) : arrivals [] coming = coming.eraseDups := by
  simp [arrivals]

/-- Names come one after another. -/
theorem arrivals_cons (old : List Text) (name : Text) (coming : List Text) :
    arrivals old (name :: coming) =
      arrivals (if name ∈ old then old else old ++ [name]) coming := by
  unfold arrivals
  by_cases known : name ∈ old
  · have passed : (name :: coming).removeAll old = coming.removeAll old := by
      simp [List.removeAll, known]
    rw [if_pos known, passed]
  · have taken : (name :: coming).removeAll old = name :: coming.removeAll old := by
      simp [List.removeAll, known]
    have later : (coming.removeAll old).filter (fun other => !other == name) =
        coming.removeAll (old ++ [name]) := by
      simp only [List.removeAll, List.filter_filter]
      refine List.filter_congr fun other _ => ?_
      by_cases same : other = name <;> simp [same]
    rw [if_neg known, taken, List.eraseDups_cons, later, List.append_assoc]
    rfl

theorem names_put (t : Table α) (name : Text) (value : α) :
    (t.put name value).names = if name ∈ t.names then t.names else t.names ++ [name] :=
  map_fst_putEntry name value t.entries

/-- Of two writes of one name the last one counts. -/
theorem put_put (t : Table α) (name : Text) (first second : α) :
    (t.put name first).put name second = t.put name second :=
  eq_of_entries (putEntry_putEntry name first second t.entries)

/-- Writing what a name has changes nothing. -/
theorem put_eq_self (found : t.find? name = some value) : t.put name value = t :=
  eq_of_entries (putEntry_eq_self found)

theorem names_foldl_put (entries : List (Text × α)) (t : Table α) :
    (entries.foldl (fun t entry => t.put entry.1 entry.2) t).names =
      arrivals t.names (entries.map Prod.fst) := by
  induction entries generalizing t with
  | nil => exact (arrivals_nil t.names).symm
  | cons entry rest ih =>
    rw [List.foldl_cons, ih, names_put, List.map_cons, arrivals_cons]

/-- **A table has its names in order of first arrival.** -/
theorem names_ofList (entries : List (Text × α)) :
    (ofList entries).names = (entries.map Prod.fst).eraseDups :=
  (names_foldl_put entries empty).trans (nil_arrivals _)

theorem find?_foldl_put (entries : List (Text × α)) (t : Table α) (name : Text) :
    (entries.foldl (fun t entry => t.put entry.1 entry.2) t).find? name =
      (entries.reverse.lookup name).or (t.find? name) := by
  induction entries generalizing t with
  | nil => rfl
  | cons entry rest ih =>
    have one : (t.put entry.1 entry.2).find? name =
        (List.lookup name [entry]).or (t.find? name) := by
      obtain ⟨key, value⟩ := entry
      rw [find?_put, List.lookup_cons]
      by_cases same : name = key
      · rw [if_pos same, beq_iff_eq.mpr same]
        rfl
      · rw [if_neg same, beq_eq_false_iff_ne.mpr same]
        rfl
    rw [List.foldl_cons, ih, one, List.reverse_cons, List.lookup_append, Option.or_assoc]

/-- **Each name of a table has what was last written for it.** -/
theorem find?_ofList (entries : List (Text × α)) (name : Text) :
    (ofList entries).find? name = entries.reverse.lookup name := by
  unfold ofList
  rw [find?_foldl_put]
  exact Option.or_none

end Table
end Gamebook

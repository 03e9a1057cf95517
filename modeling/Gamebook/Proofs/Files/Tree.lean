/-
# Writing files

A file that was written is found with its content (`FileTree.find_of_write`): writing takes no
folder away, so that the way to the file is the same after it as before.

Whether a path can be looked up at all is a matter of the path alone: names that are too long are
the only ones that break a look-up off (`find_ne_tooLong`).
-/
import Gamebook.Files.Tree

namespace Gamebook

/-- A path that can be looked up: it has no null character, and neither the path nor a name in it is
too long. -/
structure Path.Usable (p : Path) : Prop where
  whole : p.hasNull = false
  short : p.text.utf8ByteSize < Path.limit
  names : ∀ name ∈ p.parts, name.utf8ByteSize ≤ Path.nameLimit

namespace FileTree

variable {α : Type} {t u : FileTree α} {p : Path} {content : α} {parts : List String}

/-- A tree with a file of the given content at some parts. -/
def placed (t : FileTree α) (parts : List String) (content : α) : FileTree α :=
  { t with files := (parts, content) :: t.files.filter (·.1 != parts) }

/-- **All that writing a file can come to**, if it is written. -/
theorem write_eq_ok (h : t.write p content = .ok u) :
    ∃ parts, t.resolve p = .ok parts ∧ t.isFolder parts = false ∧ u = t.placed parts content := by
  unfold write at h
  cases resolved : t.resolve p with
  | error error =>
    rw [resolved] at h
    contradiction
  | ok parts =>
    rw [resolved] at h
    have outside : t.isFolder parts = false := by
      cases inside : t.isFolder parts with
      | false => rfl
      | true => simp [at?, inside, bind, Except.bind] at h
    refine ⟨parts, rfl, outside, ?_⟩
    simp only [bind, Except.bind] at h
    split at h
    · contradiction
    · split at h
      · exact (Except.ok.inj h).symm
      · contradiction

/-- No folder is lost when a file is written. -/
theorem isFolder_placed_of_isFolder {folder : List String} (h : t.isFolder folder = true) :
    (t.placed parts content).isFolder folder = true := by
  simp only [isFolder, placed, Bool.or_eq_true, List.any_cons, List.any_eq_true, List.mem_filter,
    Bool.and_eq_true] at h ⊢
  rcases h with (top | listed) | ⟨file, mem, inside, apart⟩
  · exact .inl (.inl top)
  · exact .inl (.inr listed)
  · by_cases same : file.1 = parts
    · subst same
      exact .inr (.inl ⟨inside, apart⟩)
    · exact .inr (.inr ⟨file, ⟨mem, by simpa using same⟩, inside, apart⟩)

/-- A file that is written is no folder. -/
theorem isFolder_placed (outside : t.isFolder parts = false) :
    (t.placed parts content).isFolder parts = false := by
  simp only [isFolder, placed, Bool.or_eq_false_iff, List.any_cons, List.any_eq_false,
    List.mem_filter] at outside ⊢
  obtain ⟨⟨top, listed⟩, files⟩ := outside
  exact ⟨⟨top, listed⟩, by simp, fun file mem => files file mem.1⟩

theorem at?_placed (outside : t.isFolder parts = false) :
    (t.placed parts content).at? parts = .file content := by
  rw [at?, if_neg (by simp [isFolder_placed outside])]
  simp [placed]

/-- The content of what was found, if it is a file. -/
def content? : Found α → Option α
  | .file content => some content
  | _ => none

theorem eq_file_of_content? {found : Found α} (h : content? found = some content) :
    found = .file content := by
  unfold content? at h
  split at h
  · rw [Option.some.inj h]
  · contradiction

theorem at?_eq_folder {folder : List String} :
    t.at? folder = .folder ↔ t.isFolder folder = true := by
  unfold at?
  split
  · rename_i inside
    exact ⟨fun _ => inside, fun _ => rfl⟩
  · rename_i outside
    refine ⟨fun h => ?_, fun inside => absurd inside outside⟩
    split at h <;> contradiction

/-- A way that leads somewhere leads there also when there are more folders. -/
theorem walk_of_folders (folders : ∀ folder, t.isFolder folder = true → u.isFolder folder = true)
    {here path : List String} (way : t.walk here path = .ok parts) :
    u.walk here path = .ok parts := by
  induction path generalizing here with
  | nil => exact way
  | cons part path ih =>
    unfold walk at way ⊢
    split at way
    · rename_i folder
      rw [at?_eq_folder.mpr (folders here (at?_eq_folder.mp folder))]
      simp only
      split
      · rename_i up
        rw [if_pos up] at way
        exact ih way
      · rename_i down
        rw [if_neg down] at way
        split
        · rename_i long
          rw [if_pos long] at way
          contradiction
        · rename_i short
          rw [if_neg short] at way
          exact ih way
    · contradiction
    · contradiction

/-- **A file that was written is found with its content.** -/
theorem find_of_write (h : t.write p content = .ok u) : u.find p = .file content := by
  obtain ⟨parts, resolved, outside, rfl⟩ := write_eq_ok h
  have same : (t.placed parts content).resolve p = .ok parts := by
    unfold resolve at resolved ⊢
    split at resolved
    · contradiction
    · split at resolved
      · contradiction
      · rename_i plain short
        rw [if_neg plain, if_neg short]
        exact walk_of_folders (fun _ => isFolder_placed_of_isFolder) resolved
  rw [find, same]
  exact at?_placed outside

/-- A path whose first name is too long cannot be looked up, whatever files there are. -/
theorem find_of_long_name {name : String} {rest : List String} (parts : p.parts = name :: rest)
    (whole : p.hasNull = false) (named : name ≠ "..") (long : Path.nameLimit < name.utf8ByteSize)
    (inside : t.isFolder (if p.isAbsolute then [] else t.here) = true) : t.find p = .tooLong := by
  have resolved : t.resolve p = .error .tooLong := by
    unfold resolve
    rw [whole, if_neg Bool.false_ne_true]
    split
    · rfl
    · rw [parts, walk, at?, if_pos inside]
      simp only [named, if_false, long, if_true]
  unfold find
  rw [resolved]

/-- Of a usable path only what is found along it can be wrong. -/
theorem walk_of_names {here path : List String} {error : OpenError}
    (names : ∀ name ∈ path, name.utf8ByteSize ≤ Path.nameLimit)
    (failed : t.walk here path = .error error) : error = .missing ∨ error = .notFolder := by
  induction path generalizing here with
  | nil => contradiction
  | cons name path ih =>
    obtain ⟨short, names⟩ := List.forall_mem_cons.mp names
    unfold walk at failed
    split at failed
    · split at failed
      · exact ih names failed
      · rw [if_neg (Nat.not_lt.mpr short)] at failed
        exact ih names failed
    · exact .inl (Except.error.inj failed).symm
    · exact .inr (Except.error.inj failed).symm

theorem resolve_of_usable (usable : p.Usable) {error : OpenError}
    (failed : t.resolve p = .error error) : error = .missing ∨ error = .notFolder := by
  unfold resolve at failed
  rw [usable.whole, if_neg Bool.false_ne_true, if_neg (Nat.not_le.mpr usable.short)] at failed
  exact walk_of_names usable.names failed

/-- **A usable path can be looked up**, whatever files there are. -/
theorem find_ne_tooLong (usable : p.Usable) : t.find p ≠ .tooLong := by
  unfold find
  cases resolved : t.resolve p with
  | ok parts =>
    simp only [at?]
    split
    · nofun
    · split <;> nofun
  | error error =>
    rcases resolve_of_usable usable resolved with rfl | rfl <;> nofun

/-- A usable path is no bad one for writing, either. -/
theorem write_ne_badPath (usable : p.Usable) : t.write p content ≠ .error .badPath := by
  unfold write
  cases resolved : t.resolve p with
  | ok parts =>
    simp only [bind, Except.bind]
    split
    · nofun
    · split <;> nofun
  | error error =>
    rcases resolve_of_usable usable resolved with rfl | rfl <;> nofun

end FileTree
end Gamebook

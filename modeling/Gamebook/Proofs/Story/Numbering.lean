/-
# The numbers of lines

A line whose entry has no integer for its id is numbered automatically.  Its number is new: it is
above the ids of all lines loaded before it, whatever ids their entries gave them, and it is at
least the place of the line in the story (`numbered_of_liesIn`).

* **One line.**  The number for the next line without an id is `nextAfter`.  A line raises it above
  its own id, and by one at least (`lt_nextAfter_singleton`).
* **Many lines.**  So it stays above all ids, and rises as fast as the places
  (`lt_nextAfter_of_mem`, `add_length_le_nextAfter`), however low or high the given ids are.
* **Many documents.**  The lines of a story are numbered as if they stood in one document; that is
  `Story.Gathers`.
-/
import Gamebook.Proofs.Story.Division

namespace Gamebook

open Layered

/-! ## 1. The number for the next line -/

section

variable {next : Int} {ids : List (Option Int)}

/-- **What one line does to the number for the next one**: it rises, and above the id of the
line. -/
theorem lt_nextAfter_singleton (next : Int) (id? : Option Int) :
    next < nextAfter next [id?] ∧ id?.getD next < nextAfter next [id?] := by
  simp only [nextAfter, List.foldl_cons, List.foldl_nil]
  omega

theorem nextAfter_cons (next : Int) (id? : Option Int) (rest : List (Option Int)) :
    nextAfter next (id? :: rest) = nextAfter (nextAfter next [id?]) rest := rfl

/-- The number for the next line rises as fast as the places. -/
theorem add_length_le_nextAfter (next : Int) (ids : List (Option Int)) :
    next + ids.length ≤ nextAfter next ids := by
  induction ids generalizing next with
  | nil => exact Int.le_of_eq (Int.add_zero next)
  | cons id? rest ih =>
    have first := (lt_nextAfter_singleton next id?).1
    have others := ih (nextAfter next [id?])
    rw [nextAfter_cons, List.length_cons]
    omega

/-- **The number for the next line is above all ids.**  The induction is along the lines; what
carries it is that the number never falls again. -/
theorem lt_nextAfter_of_mem {id : Int} (mem : id ∈ lineIds next ids) : id < nextAfter next ids := by
  induction ids generalizing next with
  | nil => cases mem
  | cons id? rest ih =>
    rw [nextAfter_cons]
    rcases List.mem_cons.mp mem with rfl | later
    · have first := (lt_nextAfter_singleton next id?).2
      have others := add_length_le_nextAfter (nextAfter next [id?]) rest
      omega
    · exact ih later

/-- The first lines have the ids that they have without the others. -/
theorem take_lineIds (next : Int) (ids : List (Option Int)) (place : Nat) :
    (lineIds next ids).take place = lineIds next (ids.take place) := by
  induction ids generalizing next place with
  | nil => simp [lineIds]
  | cons id? rest ih =>
    cases place with
    | zero => rfl
    | succ place => rw [lineIds, List.take_succ_cons, List.take_succ_cons, lineIds, ih]

/-- The id of the line in a place: its own, or the number that the lines before it leave. -/
theorem getElem?_lineIds (next : Int) (ids : List (Option Int)) (place : Nat) :
    (lineIds next ids)[place]? =
      ids[place]?.map fun id? => id?.getD (nextAfter next (ids.take place)) := by
  induction ids generalizing next place with
  | nil => simp [lineIds]
  | cons id? rest ih =>
    cases place with
    | zero => rfl
    | succ place =>
      rw [lineIds, List.getElem?_cons_succ, ih, List.getElem?_cons_succ, List.take_succ_cons]
      rfl

/-- Without given ids the lines are counted. -/
theorem lineIds_of_none (next : Int) (none : ∀ id? ∈ ids, id? = none) :
    lineIds next ids = (List.range ids.length).map fun place : Nat => next + (place : Int) := by
  induction ids generalizing next with
  | nil => rfl
  | cons id? rest ih =>
    obtain ⟨rfl, others⟩ := List.forall_mem_cons.mp none
    have step : nextAfter next [Option.none] = next + 1 := by
      simp only [nextAfter, List.foldl_cons, List.foldl_nil, Option.getD_none, Int.max_self]
    have shifted (place : Nat) : next + 1 + (place : Int) = next + ((place + 1 : Nat) : Int) := by
      omega
    rw [lineIds, ih _ others, step, List.length_cons, List.range_succ_eq_map]
    simp [shifted]

end

/-! ## 2. The lines of a story -/

section

variable {δ : Type} [Layered δ] {entry : δ} {entries : List δ} {story : Story}

/-- Whether an entry has an id: an integer.  A truth value is none, nor is a text or null. -/
def HasId (entry : δ) (id : Int) : Prop :=
  ∃ d, part? "id" entry = some d ∧ layer d = .atom (.number (.int id))

theorem lineId?_eq_some_iff {id : Int} :
    (fieldsOf entry).lineId? = some id ↔ HasId entry id := by
  unfold Fields.lineId? HasId part?
  cases (fieldsOf entry).named? "id" with
  | none => simp
  | some d =>
    rw [Option.map_some]
    split
    · rename_i n kind
      simp [Option.some.inj kind]
    · rename_i other
      have differs : layer d ≠ .atom (.number (.int id)) :=
        fun same => other id (congrArg some same)
      simp [differs]

theorem lineId?_eq_none_iff :
    (fieldsOf entry).lineId? = none ↔ ∀ id, ¬ HasId entry id := by
  rw [Option.eq_none_iff_forall_ne_some]
  exact forall_congr' fun id => not_congr lineId?_eq_some_iff

/-- **A line that is numbered automatically**, by its place in the story (the first place is 0): the
entry in this place has no id. -/
def Automatic (entries : List δ) (story : Story) (place : Nat) (line : Line) : Prop :=
  story.lines[place]? = some line ∧
    ∃ entry, entries[place]? = some entry ∧ ∀ id, ¬ HasId entry id

/-- **How the lines of a story are numbered** that are made of some entries. -/
structure Numbered (entries : List δ) (story : Story) : Prop where
  /-- Every entry makes a line, in load order. -/
  made : List.Forall₂ (fun entry line => (fieldsOf entry).line line.id = .ok line) entries
    story.lines
  /-- An id that is given is kept. -/
  kept : ∀ (place : Nat) (line : Line) (entry : δ) (id : Int), story.lines[place]? = some line →
    entries[place]? = some entry → HasId entry id → line.id = id
  /-- An automatic number is above the ids of all lines that were loaded before. -/
  above : ∀ place line, Automatic entries story place line →
    ∀ earlier ∈ story.lines.take place, earlier.id < line.id
  /-- It is at least the place of its line, counted from one. -/
  placed : ∀ place line, Automatic entries story place line → (place : Int) + 1 ≤ line.id
  /-- No two lines have the same automatic number. -/
  apart : ∀ place place' line line', Automatic entries story place line →
    Automatic entries story place' line' → line.id = line'.id → place = place'
  /-- If no entry has an id, the lines are counted from one. -/
  counted : (∀ entry ∈ entries, ∀ id, ¬ HasId entry id) →
    story.lines.map Line.id = (List.range entries.length).map fun place : Nat => 1 + (place : Int)

/-- The ids that entries have by themselves. -/
def ownIds (entries : List δ) : List (Option Int) :=
  entries.map fun entry => (fieldsOf entry).lineId?

/-- The id of a line: its own, or the number that the lines before it leave. -/
theorem id_of_place (ids : story.lines.map Line.id = lineIds 1 (ownIds entries)) {place : Nat}
    {line : Line} (there : story.lines[place]? = some line) (found : entries[place]? = some entry) :
    line.id = (fieldsOf entry).lineId?.getD (nextAfter 1 ((ownIds entries).take place)) := by
  have here : (story.lines.map Line.id)[place]? = some line.id := by
    rw [List.getElem?_map, there]
    rfl
  rw [ids, getElem?_lineIds, ownIds, List.getElem?_map, found] at here
  exact (Option.some.inj here).symm

/-- An automatic number is the one that the lines before it leave. -/
theorem Automatic.id_eq {place : Nat} {line : Line} (automatic : Automatic entries story place line)
    (ids : story.lines.map Line.id = lineIds 1 (ownIds entries)) :
    line.id = nextAfter 1 ((ownIds entries).take place) := by
  obtain ⟨there, entry, found, unnumbered⟩ := automatic
  rw [id_of_place ids there found, lineId?_eq_none_iff.mpr unnumbered]
  rfl

/-- An automatic number is above the ids before it. -/
theorem Automatic.above {place : Nat} {line earlier : Line}
    (automatic : Automatic entries story place line)
    (ids : story.lines.map Line.id = lineIds 1 (ownIds entries))
    (before : earlier ∈ story.lines.take place) : earlier.id < line.id := by
  rw [automatic.id_eq ids]
  refine lt_nextAfter_of_mem ?_
  rw [← take_lineIds, ← ids, ← List.map_take]
  exact List.mem_map_of_mem before

/-- What stands before a place is among the lines in front of it. -/
theorem mem_take_of_lt {place place' : Nat} {line : Line} (there : story.lines[place]? = some line)
    (before : place < place') : line ∈ story.lines.take place' := by
  refine List.mem_of_getElem? (i := place) ?_
  rw [List.getElem?_take_of_lt before]
  exact there

theorem Numbered.exists_line (numbered : Numbered entries story) (place : Nat)
    (found : entries[place]? = some entry) : ∃ line, story.lines[place]? = some line := by
  have inside := (List.getElem?_eq_some_iff.mp found).1
  rw [numbered.made.length_eq] at inside
  exact ⟨_, List.getElem?_eq_getElem inside⟩

/-- **The lines of a story are numbered by their entries**, if their ids are those of `lineIds`. -/
theorem numbered_of_ids
    (made : List.Forall₂ (fun entry line => (fieldsOf entry).line line.id = .ok line) entries
      story.lines)
    (ids : story.lines.map Line.id = lineIds 1 (ownIds entries)) :
    Numbered entries story where
  made := made
  kept := by
    intro place line entry id there found own
    rw [id_of_place ids there found, lineId?_eq_some_iff.mpr own]
    rfl
  above := fun place line automatic earlier before => automatic.above ids before
  placed := by
    intro place line automatic
    have length : ((ownIds entries).take place).length = place := by
      obtain ⟨-, entry, found, -⟩ := automatic
      have inside := (List.getElem?_eq_some_iff.mp found).1
      rw [List.length_take, ownIds, List.length_map]
      omega
    have rises := add_length_le_nextAfter 1 ((ownIds entries).take place)
    rw [automatic.id_eq ids]
    omega
  apart := by
    intro place place' line line' automatic automatic' same
    rcases Nat.lt_trichotomy place place' with before | equal | after
    · have rises := automatic'.above ids (mem_take_of_lt automatic.1 before)
      omega
    · exact equal
    · have rises := automatic.above ids (mem_take_of_lt automatic'.1 after)
      omega
  counted := by
    intro unnumbered
    have none : ∀ id? ∈ ownIds entries, id? = Option.none :=
      List.forall_mem_map.mpr fun entry mem => lineId?_eq_none_iff.mpr (unnumbered entry mem)
    rw [ids, lineIds_of_none 1 none, ownIds, List.length_map]

end

/-! ## 3. Story folders -/

section

variable {α δ : Type} [Layered δ] {decoder : Decoder α δ} {tree : FileTree α} {folder : Path}
  {bundle : Bundle δ}

/-- **What the lines of a story folder are**, over all its data documents. -/
structure NumbersLines (logs : Bool) (decoder : Decoder α δ) (tree : FileTree α) (folder : Path)
    (bundle : Bundle δ) : Prop where
  /-- Well-formed documents are loaded, if the manifest is. -/
  loads : (∀ d ∈ bundle.contents, WellFormed d) → ∀ info, bundle.manifest logs folder = .ok info →
    ∃ story, Story.load logs decoder tree folder = .ok (story, info)
  /-- The lines of what is loaded are numbered through all documents, in load order. -/
  numbered : ∀ story info, Story.load logs decoder tree folder = .ok (story, info) →
    Numbered (bundle.contents.flatMap (entriesOf "dialogues")) story

/-- **Automatic numbers are new.** -/
theorem numbered_of_liesIn (logs : Bool) (lies : bundle.LiesIn decoder tree folder) :
    NumbersLines logs decoder tree folder bundle where
  loads wellFormed _ read := exists_load lies wellFormed read
  numbered := by
    intro story info loaded
    obtain ⟨-, -, gathers⟩ := (Story.load_ok_iff lies).mp loaded
    exact numbered_of_ids gathers.lines gathers.ids

end

/-- A line with something for its id. -/
def calling (id : Datum) : Datum := .map [(.text "id", id), (.text "scene_id", .text "peak")]

/-- A document with lines of all kinds: without an id, with a high one, with a negative one, and
with a truth value that is none. -/
def ascent : Datum := .map [(.text "dialogues", .list
  [spoken none "Up.", calling (.int 5), calling (.int (-2)), calling (.atom (.bool true))])]

/-- A second document: an id that is there already, a text, and null. -/
def summit : Datum := .map [(.text "dialogues", .list
  [calling (.int 5), calling (.text "7"), calling (.atom .null), spoken none "Wind."])]

/-- The line with a truth value comes behind the line with the id 5, and the last line behind all
others. -/
theorem numbered_on_summit :
    let documents := [("a.yaml", ascent), ("b.yaml", summit)]
    (Tale.bundle none documents).LiesIn .ok (Tale.tree none documents) Tale.folder ∧
      ∃ story info, Story.load true .ok (Tale.tree none documents) Tale.folder = .ok (story, info) ∧
        ∃ fourth last : Line, story.lines[3]? = some fourth ∧ story.lines[7]? = some last ∧
          5 < fourth.id ∧ 8 ≤ last.id ∧ ∀ earlier ∈ story.lines.take 7, earlier.id < last.id := by
  intro documents
  have lies : (Tale.bundle none documents).LiesIn .ok (Tale.tree none documents) Tale.folder :=
    Tale.liesIn rfl (fun _ => rfl) nofun rfl (by decide +kernel) (by decide +kernel)
      (by decide +kernel) (List.forall_mem_cons.mpr ⟨rfl, List.forall_mem_singleton.mpr rfl⟩)
  have numbers := numbered_of_liesIn true lies
  have wellFormed : ∀ d ∈ (Tale.bundle none documents).contents, WellFormed d :=
    List.forall_mem_cons.mpr ⟨wellFormed_of_all rfl (by decide +kernel),
      List.forall_mem_singleton.mpr (wellFormed_of_all rfl (by decide +kernel))⟩
  obtain ⟨story, loaded⟩ := numbers.loads wellFormed _ rfl
  have numbered := numbers.numbered story _ loaded
  obtain ⟨second, secondThere⟩ := numbered.exists_line 1 rfl
  obtain ⟨fourth, fourthThere⟩ := numbered.exists_line 3 rfl
  obtain ⟨last, lastThere⟩ := numbered.exists_line 7 rfl
  have given : second.id = 5 :=
    numbered.kept 1 second _ 5 secondThere rfl (lineId?_eq_some_iff.mp rfl)
  have fourthAutomatic : Automatic (entriesOf "dialogues" ascent ++ entriesOf "dialogues" summit)
      story 3 fourth :=
    ⟨fourthThere, calling (.atom (.bool true)), rfl, lineId?_eq_none_iff.mp rfl⟩
  have lastAutomatic : Automatic (entriesOf "dialogues" ascent ++ entriesOf "dialogues" summit)
      story 7 last :=
    ⟨lastThere, spoken none "Wind.", rfl, lineId?_eq_none_iff.mp rfl⟩
  refine ⟨lies, story, _, loaded, fourth, last, fourthThere, lastThere, ?_, ?_, ?_⟩
  · rw [← given]
    exact numbered.above 3 fourth fourthAutomatic second (mem_take_of_lt secondThere (by decide))
  · exact numbered.placed 7 last lastAutomatic
  · exact numbered.above 7 last lastAutomatic

end Gamebook

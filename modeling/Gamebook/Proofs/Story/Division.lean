/-
# Dividing data documents

Well-formed data documents are loaded, and how their entries are divided over them does not matter:
cutting a document in two and putting two neighbours together leaves the story as it is, down to
the ids of the lines (`assembled_of_liesIn`).

Documents that are divided otherwise are other documents, and so are their entries.  `SameEntry`
compares entries by all that is ever read of them.
-/
import Gamebook.Proofs.Story.Gathering

namespace Gamebook

open Layered

section

variable {δ : Type} [Layered δ] {d e : δ} {documents others : List δ} {part : String}
  {next : Int} {story : Story}

/-! ## 1. Well-formed documents -/

/-- **A well-formed data document**: everything has its shape, and the fields of all entries can be
read as text. -/
structure WellFormed (d : δ) : Prop where
  shape : dataOffences d = []
  readable : ∀ part ∈ dataSections, ∀ entry ∈ entriesOf part d, ∀ field ∈ fieldsOf entry,
    ∃ text, content field.2 = .ok text

theorem WellFormed.legible (h : WellFormed d) (known : part ∈ dataSections) {entry : δ}
    (mem : entry ∈ entriesOf part d) : Legible (fun _ => False) (fieldsOf entry) := by
  intro field field_mem fault failed
  obtain ⟨text, read⟩ := h.readable part known entry mem field field_mem
  rw [read] at failed
  contradiction

theorem exists_forall₂ {α β : Type} {R : α → β → Prop} {as : List α}
    (each : ∀ a ∈ as, ∃ b, R a b) : ∃ bs, List.Forall₂ R as bs := by
  induction as with
  | nil => exact ⟨[], .nil⟩
  | cons a as ih =>
    rw [List.forall_mem_cons] at each
    obtain ⟨b, first⟩ := each.1
    obtain ⟨bs, others⟩ := ih each.2
    exact ⟨b :: bs, .cons first others⟩

/-- Legible entries are read as lines with any ids. -/
theorem exists_lines {entries : List δ} {ids : List Int} (length : entries.length = ids.length)
    (legible : ∀ entry ∈ entries, Legible (fun _ => False) (fieldsOf entry)) :
    ∃ lines : List Line,
      List.Forall₂ (fun entry line => (fieldsOf entry).line line.id = .ok line) entries lines ∧
        lines.map Line.id = ids := by
  induction entries generalizing ids with
  | nil =>
    cases ids with
    | nil => exact ⟨[], .nil, rfl⟩
    | cons id ids => contradiction
  | cons entry rest ih =>
    cases ids with
    | nil => contradiction
    | cons id ids =>
      rw [List.forall_mem_cons] at legible
      obtain ⟨line, read⟩ := (legible.1.line id).exists_ok
      obtain ⟨lines, others, same⟩ := ih (Nat.succ.inj length) legible.2
      have given := line_id read
      refine ⟨line :: lines, .cons ?_ others, ?_⟩
      · rw [given]
        exact read
      · rw [List.map_cons, given, same]

/-- **Well-formed documents make a story.** -/
theorem exists_gathers (next : Int) (wellFormed : ∀ d ∈ documents, WellFormed d) :
    ∃ story : Story, story.Gathers next documents := by
  have legible {part : String} (known : part ∈ dataSections) :
      ∀ entry ∈ documents.flatMap (entriesOf part), Legible (fun _ => False) (fieldsOf entry) := by
    intro entry mem
    obtain ⟨d, d_mem, mem⟩ := List.mem_flatMap.mp mem
    exact (wellFormed d d_mem).legible known mem
  obtain ⟨scenes, hs⟩ : ∃ scenes,
      Gathered "scenes" (fun entry scene => entry.scene = .ok scene) documents scenes := by
    have legible := legible (by decide : "scenes" ∈ dataSections)
    exact exists_forall₂ fun entry mem => (legible entry mem).scene.exists_ok
  obtain ⟨choices, hc⟩ : ∃ choices,
      Gathered "choices" (fun entry choice => entry.choice = .ok choice) documents choices := by
    have legible := legible (by decide : "choices" ∈ dataSections)
    exact exists_forall₂ fun entry mem => (legible entry mem).choice.exists_ok
  obtain ⟨characters, hp⟩ : ∃ characters,
      Gathered "characters" (fun entry character => entry.character = .ok character) documents
        characters := by
    have legible := legible (by decide : "characters" ∈ dataSections)
    exact exists_forall₂ fun entry mem => (legible entry mem).character.exists_ok
  obtain ⟨defs, hd⟩ : ∃ defs,
      Gathered "variables" (fun entry defined => entry.variableDef = .ok defined) documents
        defs := by
    have legible := legible (by decide : "variables" ∈ dataSections)
    exact exists_forall₂ fun entry mem => (legible entry mem).variableDef.exists_ok
  have length : (documents.flatMap (entriesOf "dialogues")).length =
      (lineIds next (idsOf documents)).length := by
    rw [length_lineIds, idsOf, List.length_map]
  obtain ⟨lines, hl, ids⟩ := exists_lines length (legible (by decide : "dialogues" ∈ dataSections))
  exact ⟨⟨scenes, lines, choices, characters, defs⟩, hs, hl, ids, hc, hp, hd⟩

/-! ## 2. Entries that say the same -/

/-- Two entries that say the same: all that is read of them are the contents of their fields and
the integer that may be the id of a line. -/
structure SameEntry (d e : δ) : Prop where
  contentOr : ∀ name missing, (fieldsOf d).contentOr name missing =
    (fieldsOf e).contentOr name missing
  lineId : (fieldsOf d).lineId? = (fieldsOf e).lineId?

theorem SameEntry.refl (d : δ) : SameEntry d d := ⟨fun _ _ => rfl, rfl⟩

theorem SameEntry.symm (h : SameEntry d e) : SameEntry e d :=
  ⟨fun name missing => (h.contentOr name missing).symm, h.lineId.symm⟩

section

variable (h : SameEntry d e)
include h

theorem SameEntry.scene : (fieldsOf d).scene = (fieldsOf e).scene := by
  simp only [Fields.scene, Fields.content, h.contentOr]

theorem SameEntry.line (id : Int) : (fieldsOf d).line id = (fieldsOf e).line id := by
  simp only [Fields.line, Fields.content, h.contentOr]

theorem SameEntry.choice : (fieldsOf d).choice = (fieldsOf e).choice := by
  simp only [Fields.choice, Fields.content, h.contentOr]

theorem SameEntry.character : (fieldsOf d).character = (fieldsOf e).character := by
  simp only [Fields.character, Fields.content, h.contentOr]

theorem SameEntry.variableDef : (fieldsOf d).variableDef = (fieldsOf e).variableDef := by
  simp only [Fields.variableDef, Fields.content, h.contentOr]

end

/-- Documents that say the same, section by section, however they are divided. -/
def SameEntries (documents others : List δ) : Prop :=
  ∀ part ∈ dataSections,
    List.Forall₂ SameEntry (documents.flatMap (entriesOf part)) (others.flatMap (entriesOf part))

theorem gathered_of_sameEntry {α : Type} {read : Fields δ → α → Prop} {found : List α}
    (same : List.Forall₂ SameEntry (documents.flatMap (entriesOf part))
      (others.flatMap (entriesOf part)))
    (reads : ∀ d e : δ, SameEntry d e → ∀ a, read (fieldsOf d) a → read (fieldsOf e) a)
    (h : Gathered part read documents found) : Gathered part read others found := by
  unfold Gathered at h ⊢
  generalize documents.flatMap (entriesOf part) = entries at same h
  generalize others.flatMap (entriesOf part) = entries' at same
  induction same generalizing found with
  | nil => exact h
  | cons first _ ih =>
    obtain ⟨a, rest, read, others, rfl⟩ := List.forall₂_cons_left_iff.mp h
    exact .cons (reads _ _ first a read) (ih others)

/-- **Documents that say the same make the same story.** -/
theorem SameEntries.gathers (same : SameEntries documents others)
    (h : story.Gathers next documents) :
    story.Gathers next others where
  scenes := gathered_of_sameEntry (same "scenes" (by decide))
    (fun _ _ entry _ read => entry.scene ▸ read) h.scenes
  lines := gathered_of_sameEntry (same "dialogues" (by decide))
    (fun _ _ entry _ read => entry.line _ ▸ read) h.lines
  ids := by
    have lines : idsOf documents = idsOf others := by
      unfold idsOf
      have same := same "dialogues" (by decide)
      generalize documents.flatMap (entriesOf "dialogues") = entries at same ⊢
      generalize others.flatMap (entriesOf "dialogues") = entries' at same ⊢
      induction same with
      | nil => rfl
      | cons first _ ih => rw [List.map_cons, List.map_cons, first.lineId, ih]
    rw [h.ids, lines]
  choices := gathered_of_sameEntry (same "choices" (by decide))
    (fun _ _ entry _ read => entry.choice ▸ read) h.choices
  characters := gathered_of_sameEntry (same "characters" (by decide))
    (fun _ _ entry _ read => entry.character ▸ read) h.characters
  variableDefs := gathered_of_sameEntry (same "variables" (by decide))
    (fun _ _ entry _ read => entry.variableDef ▸ read) h.variableDefs

/-! ## 3. Documents cut in two -/

/-- **A document cut in two**: every section is cut somewhere, and where nothing of it is left over
it may be missing or null. -/
structure Cut (whole first second : δ) : Prop where
  wholeShape : dataOffences whole = []
  firstShape : dataOffences first = []
  secondShape : dataOffences second = []
  entries : ∀ part ∈ dataSections,
    List.Forall₂ SameEntry (entriesOf part whole) (entriesOf part first ++ entriesOf part second)

/-- **Documents that are divided anew** by cutting some in two and putting neighbours together. -/
inductive Redivided : List δ → List δ → Prop
  | cut {whole first second : δ} (before after : List δ) (cut : Cut whole first second) :
      Redivided (before ++ whole :: after) (before ++ first :: second :: after)
  | merge {whole first second : δ} (before after : List δ) (cut : Cut whole first second) :
      Redivided (before ++ first :: second :: after) (before ++ whole :: after)
  | trans {a b c : List δ} : Redivided a b → Redivided b c → Redivided a c

theorem forall₂_sameEntry_refl (entries : List δ) : List.Forall₂ SameEntry entries entries :=
  List.forall₂_same.mpr fun entry _ => .refl entry

theorem SameEntries.symm (h : SameEntries documents others) : SameEntries others documents :=
  fun part known => ((h part known).imp fun _ _ same => same.symm).flip

/-- A cut in the midst of documents changes nothing of what they say. -/
theorem Cut.sameEntries {whole first second : δ} (cut : Cut whole first second)
    (before after : List δ) :
    SameEntries (before ++ whole :: after) (before ++ first :: second :: after) := by
  intro part known
  simp only [List.flatMap_append, List.flatMap_cons]
  rw [← List.append_assoc (entriesOf part first)]
  exact List.rel_append (forall₂_sameEntry_refl _)
    (List.rel_append (cut.entries part known) (forall₂_sameEntry_refl _))

/-- No division changes the story. -/
theorem Redivided.gathers (h : Redivided documents others)
    (gathers : story.Gathers next documents) :
    story.Gathers next others := by
  induction h with
  | cut before after cut => exact (cut.sameEntries before after).gathers gathers
  | merge before after cut => exact (cut.sameEntries before after).symm.gathers gathers
  | trans _ _ ih ih' => exact ih' (ih gathers)

/-- No division takes the shape of any document. -/
theorem Redivided.shape (h : Redivided documents others)
    (shape : ∀ d ∈ documents, dataOffences d = []) : ∀ d ∈ others, dataOffences d = [] := by
  induction h with
  | cut before after cut =>
    simp only [List.forall_mem_append, List.forall_mem_cons] at shape ⊢
    exact ⟨shape.1, cut.firstShape, cut.secondShape, shape.2.2⟩
  | merge before after cut =>
    simp only [List.forall_mem_append, List.forall_mem_cons] at shape ⊢
    exact ⟨shape.1, cut.wholeShape, shape.2.2.2⟩
  | trans _ _ ih ih' => exact ih' (ih shape)

end

/-! ## 4. Loading -/

section

variable {α δ : Type} [Layered δ] {decoder : Decoder α δ} {tree : FileTree α} {folder : Path}
  {bundle : Bundle δ}

/-- Well-formed documents are loaded. -/
theorem exists_load (lies : bundle.LiesIn decoder tree folder)
    (wellFormed : ∀ d ∈ bundle.contents, WellFormed d) {logs : Bool} {info : Manifest}
    (read : bundle.manifest logs folder = .ok info) :
    ∃ story, Story.load logs decoder tree folder = .ok (story, info) := by
  obtain ⟨story, gathers⟩ := exists_gathers 1 wellFormed
  refine ⟨story, (Story.load_ok_iff lies).mpr ⟨read, ?_, gathers⟩⟩
  exact fun entry mem => (wellFormed entry.2 (List.mem_map_of_mem mem)).shape

/-- **What is made of the data documents of a folder.** -/
structure Assembled (logs : Bool) (decoder : Decoder α δ) (tree : FileTree α) (folder : Path)
    (bundle : Bundle δ) : Prop where
  /-- Well-formed documents are loaded, if the manifest is. -/
  loads : (∀ d ∈ bundle.contents, WellFormed d) → ∀ info, bundle.manifest logs folder = .ok info →
    ∃ story, Story.load logs decoder tree folder = .ok (story, info)
  /-- What is loaded is gathered from the documents. -/
  gathers : ∀ story info, Story.load logs decoder tree folder = .ok (story, info) →
    story.Gathers 1 bundle.contents
  /-- Whoever divides the documents anew loads the same. -/
  redivided : ∀ story info, Story.load logs decoder tree folder = .ok (story, info) →
    ∀ (other : Bundle δ) (tree' : FileTree α), other.LiesIn decoder tree' folder →
      other.manifest? = bundle.manifest? → Redivided bundle.contents other.contents →
        Story.load logs decoder tree' folder = .ok (story, info)

/-- **How content is divided over data documents does not matter.** -/
theorem assembled_of_liesIn (logs : Bool) (lies : bundle.LiesIn decoder tree folder) :
    Assembled logs decoder tree folder bundle where
  loads wellFormed _ read := exists_load lies wellFormed read
  gathers := fun _ _ loaded => ((Story.load_ok_iff lies).mp loaded).2.2
  redivided := by
    intro story info loaded other tree' lies' manifest redivided
    obtain ⟨read, shape, gathers⟩ := (Story.load_ok_iff lies).mp loaded
    rw [Bundle.manifest, ← manifest] at read
    have shape := redivided.shape (List.forall_mem_map.mpr shape)
    exact (Story.load_ok_iff lies').mpr
      ⟨read, List.forall_mem_map.mp shape, redivided.gathers gathers⟩

end

/-- An entry of a dialogue: a line with an id of its own, or with none. -/
def spoken (id? : Option Int) (text : Text) : Datum :=
  .map ((id?.map fun id => (.text "id", .int id)).toList ++ [(.text "text", .text text)])

/-- A document with a scene and three lines. -/
def shore : Datum := .map
  [(.text "scenes", .list [.map [(.text "scene_id", .text "shore")]]),
   (.text "dialogues", .list [spoken none "Waves.", spoken (some 7) "Gulls.", spoken none "Salt."])]

/-- Its first line. -/
def shoreAhead : Datum := .map
  [(.text "scenes", .atom .null), (.text "dialogues", .list [spoken none "Waves."])]

/-- The rest of it. -/
def shoreBehind : Datum := .map
  [(.text "scenes", .list [.map [(.text "scene_id", .text "shore")]]),
   (.text "dialogues", .list [spoken (some 7) "Gulls.", spoken none "Salt."])]

/-- A document of the right shape whose fields are all found readable. -/
theorem wellFormed_of_all {d : Datum} (shape : dataOffences d = [])
    (checked : (dataSections.all fun part => (entriesOf part d).all fun entry =>
      (fieldsOf entry).all fun field => (content field.2).toBool) = true) : WellFormed d where
  shape := shape
  readable := by
    intro part known entry mem field field_mem
    simp only [List.all_eq_true] at checked
    have legible := checked part known entry mem field field_mem
    cases read : content field.2 with
    | error fault =>
      rw [read] at legible
      cases legible
    | ok text => exact ⟨text, rfl⟩

theorem wellFormed_shore : WellFormed shore := wellFormed_of_all rfl (by decide +kernel)

theorem cut_shore : Cut shore shoreAhead shoreBehind where
  wholeShape := rfl
  firstShape := rfl
  secondShape := rfl
  entries := by
    have parts : ∀ part ∈ dataSections,
        entriesOf part shore = entriesOf part shoreAhead ++ entriesOf part shoreBehind := by
      intro part known
      simp only [dataSections, List.mem_cons, List.not_mem_nil, or_false] at known
      rcases known with rfl | rfl | rfl | rfl | rfl <;> rfl
    intro part known
    rw [parts part known]
    exact forall₂_sameEntry_refl _

/-- In two documents the lines of the shore have the ids that they have in one. -/
theorem assembled_on_shore :
    let whole := [("a.yaml", shore)]
    let pieces := [("a.yaml", shoreAhead), ("b.yaml", shoreBehind)]
    (Tale.bundle none whole).LiesIn .ok (Tale.tree none whole) Tale.folder ∧
      Redivided (Tale.bundle none whole).contents (Tale.bundle none pieces).contents ∧
        ∃ story info, Story.load true .ok (Tale.tree none whole) Tale.folder = .ok (story, info) ∧
          Story.load true .ok (Tale.tree none pieces) Tale.folder = .ok (story, info) ∧
            story.lines.map Line.id = [1, 7, 8] := by
  intro whole pieces
  have lies : (Tale.bundle none whole).LiesIn .ok (Tale.tree none whole) Tale.folder :=
    Tale.liesIn rfl (fun _ => rfl) nofun rfl (by decide +kernel) (by decide +kernel)
      (by decide +kernel) (List.forall_mem_singleton.mpr rfl)
  have lies' : (Tale.bundle none pieces).LiesIn .ok (Tale.tree none pieces) Tale.folder :=
    Tale.liesIn rfl (fun _ => rfl) nofun rfl (by decide +kernel) (by decide +kernel)
      (by decide +kernel) (List.forall_mem_cons.mpr ⟨rfl, List.forall_mem_singleton.mpr rfl⟩)
  have redivided : Redivided (Tale.bundle none whole).contents (Tale.bundle none pieces).contents :=
    .cut [] [] cut_shore
  have assembled := assembled_of_liesIn true lies
  obtain ⟨story, loaded⟩ :=
    assembled.loads (List.forall_mem_singleton.mpr wellFormed_shore) _ rfl
  refine ⟨lies, redivided, story, _, loaded, ?_, ?_⟩
  · exact assembled.redivided story _ loaded _ _ lies' rfl redivided
  · rw [(assembled.gathers story _ loaded).ids]
    rfl

end Gamebook

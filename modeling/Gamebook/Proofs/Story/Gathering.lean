/-
# How content is spread over data documents

A story is gathered from its data documents entry by entry (`Story.Gathers`): each of its lists is
what the entries of one section say, document after document.  All that one document leaves behind
for the next is the number that the next line without an id gets, and that number depends only on
the lines before it (`lineIds`).  So it does not matter how the entries are spread over documents.
-/
import Gamebook.Proofs.Story.Sections
import Gamebook.Story.Load

namespace Gamebook

open Layered

/-! ## 1. The ids of lines -/

/-- The next id after some lines, which have the given ids or none. -/
def nextAfter (next : Int) (ids : List (Option Int)) : Int :=
  ids.foldl (fun next id? => max next (id?.getD next) + 1) next

/-- **The ids of some lines**: a line that has none gets the next one. -/
def lineIds (next : Int) : List (Option Int) → List Int
  | [] => []
  | id? :: rest => id?.getD next :: lineIds (nextAfter next [id?]) rest

theorem nextAfter_append (next : Int) (ids more : List (Option Int)) :
    nextAfter next (ids ++ more) = nextAfter (nextAfter next ids) more := List.foldl_append

theorem lineIds_append (next : Int) (ids more : List (Option Int)) :
    lineIds next (ids ++ more) = lineIds next ids ++ lineIds (nextAfter next ids) more := by
  induction ids generalizing next with
  | nil => rfl
  | cons id? rest ih =>
    have step : nextAfter next (id? :: rest) = nextAfter (nextAfter next [id?]) rest := rfl
    rw [List.cons_append, lineIds, lineIds, ih, step, List.cons_append]

theorem length_lineIds (next : Int) (ids : List (Option Int)) :
    (lineIds next ids).length = ids.length := by
  induction ids generalizing next with
  | nil => rfl
  | cons id? rest ih => rw [lineIds, List.length_cons, List.length_cons, ih]

/-! ## 2. Stories in pieces -/

namespace Story

/-- Two stories one behind the other. -/
def append (story more : Story) : Story where
  scenes := story.scenes ++ more.scenes
  lines := story.lines ++ more.lines
  choices := story.choices ++ more.choices
  characters := story.characters ++ more.characters
  variableDefs := story.variableDefs ++ more.variableDefs

theorem append_assoc (a b c : Story) : (a.append b).append c = a.append (b.append c) := by
  simp [append]

theorem append_nil (story : Story) : story.append {} = story := by simp [append]

end Story

section

variable {δ : Type} [Layered δ]

/-- The ids that the lines of some documents have by themselves. -/
def idsOf (documents : List δ) : List (Option Int) :=
  (documents.flatMap (entriesOf "dialogues")).map fun entry => (fieldsOf entry).lineId?

/-- What the entries of a section say, document after document. -/
def Gathered {α : Type} (part : String) (read : Fields δ → α → Prop) (documents : List δ)
    (found : List α) : Prop :=
  List.Forall₂ (fun entry a => read (fieldsOf entry) a) (documents.flatMap (entriesOf part)) found

/-- **A story gathered from documents**, whose first line without an id gets the id `next`. -/
structure Story.Gathers (story : Story) (next : Int) (documents : List δ) : Prop where
  scenes : Gathered "scenes" (fun entry scene => entry.scene = .ok scene) documents story.scenes
  lines : Gathered "dialogues" (fun entry line => entry.line line.id = .ok line) documents
    story.lines
  ids : story.lines.map Line.id = lineIds next (idsOf documents)
  choices : Gathered "choices" (fun entry choice => entry.choice = .ok choice) documents
    story.choices
  characters : Gathered "characters" (fun entry character => entry.character = .ok character)
    documents story.characters
  variableDefs : Gathered "variables" (fun entry defined => entry.variableDef = .ok defined)
    documents story.variableDefs

theorem gathered_append_iff {α : Type} {part : String} {read : Fields δ → α → Prop}
    {documents more : List δ} {found : List α} :
    Gathered part read (documents ++ more) found ↔
      ∃ as bs, Gathered part read documents as ∧ Gathered part read more bs ∧ found = as ++ bs := by
  unfold Gathered
  rw [List.flatMap_append, forall₂_append_left_iff]

theorem idsOf_append (documents more : List δ) :
    idsOf (documents ++ more) = idsOf documents ++ idsOf more := by
  simp [idsOf]

theorem Gathered.length_eq {α : Type} {part : String} {read : Fields δ → α → Prop}
    {documents : List δ} {found : List α} (h : Gathered part read documents found) :
    (documents.flatMap (entriesOf part)).length = found.length := List.Forall₂.length_eq h

/-- **Documents in two pieces are gathered piece by piece**; the second piece goes on with the ids
where the first one ends. -/
theorem gathers_append_iff {next : Int} {documents more : List δ} {story : Story} :
    story.Gathers next (documents ++ more) ↔
      ∃ a b : Story, a.Gathers next documents ∧ b.Gathers (nextAfter next (idsOf documents)) more ∧
        story = a.append b := by
  constructor
  · intro whole
    obtain ⟨scenes, scenes', hs, hs', es⟩ := gathered_append_iff.mp whole.scenes
    obtain ⟨lines, lines', hl, hl', el⟩ := gathered_append_iff.mp whole.lines
    obtain ⟨choices, choices', hc, hc', ec⟩ := gathered_append_iff.mp whole.choices
    obtain ⟨characters, characters', hp, hp', ep⟩ := gathered_append_iff.mp whole.characters
    obtain ⟨defs, defs', hd, hd', ed⟩ := gathered_append_iff.mp whole.variableDefs
    have ids := whole.ids
    rw [el, List.map_append, idsOf_append, lineIds_append] at ids
    have ids := List.append_inj ids (by
      rw [List.length_map, length_lineIds, idsOf, List.length_map, hl.length_eq])
    refine ⟨⟨scenes, lines, choices, characters, defs⟩,
      ⟨scenes', lines', choices', characters', defs'⟩,
      ⟨hs, hl, ids.1, hc, hp, hd⟩, ⟨hs', hl', ids.2, hc', hp', hd'⟩, ?_⟩
    cases story
    simp only at es el ec ep ed
    simp [Story.append, es, el, ec, ep, ed]
  · rintro ⟨a, b, before, after, rfl⟩
    refine ⟨?_, ?_, ?_, ?_, ?_, ?_⟩
    · exact gathered_append_iff.mpr ⟨_, _, before.scenes, after.scenes, rfl⟩
    · exact gathered_append_iff.mpr ⟨_, _, before.lines, after.lines, rfl⟩
    · simp only [Story.append, List.map_append, idsOf_append, lineIds_append, before.ids, after.ids]
    · exact gathered_append_iff.mpr ⟨_, _, before.choices, after.choices, rfl⟩
    · exact gathered_append_iff.mpr ⟨_, _, before.characters, after.characters, rfl⟩
    · exact gathered_append_iff.mpr ⟨_, _, before.variableDefs, after.variableDefs, rfl⟩

theorem gathered_nil_iff {α : Type} {part : String} {read : Fields δ → α → Prop}
    {found : List α} : Gathered part read ([] : List δ) found ↔ found = [] :=
  List.forall₂_nil_left_iff

theorem gathers_nil_iff {next : Int} {story : Story} :
    story.Gathers next ([] : List δ) ↔ story = {} := by
  constructor
  · intro h
    cases story
    have scenes := gathered_nil_iff.mp h.scenes
    have lines := gathered_nil_iff.mp h.lines
    have choices := gathered_nil_iff.mp h.choices
    have characters := gathered_nil_iff.mp h.characters
    have defs := gathered_nil_iff.mp h.variableDefs
    simp_all
  · rintro rfl
    exact ⟨.nil, .nil, rfl, .nil, .nil, .nil⟩

theorem gathered_singleton_iff {α : Type} {part : String} {read : Fields δ → α → Prop} {d : δ}
    {found : List α} : Gathered part read [d] found ↔
      List.Forall₂ (fun entry a => read (fieldsOf entry) a) (entriesOf part d) found := by
  unfold Gathered
  rw [List.flatMap_singleton]

theorem idsOf_singleton (d : δ) :
    idsOf [d] = (entriesOf "dialogues" d).map fun entry => (fieldsOf entry).lineId? := by
  unfold idsOf
  rw [List.flatMap_singleton]

/-! ## 3. Reading one document -/

theorem line_id {fields : Fields δ} {id : Int} {line : Line} (read : fields.line id = .ok line) :
    line.id = id := by
  unfold Fields.line at read
  simp only [bind_ok_iff] at read
  obtain ⟨_, -, _, -, _, -, _, -, read⟩ := read
  rw [← Except.ok.inj read]

theorem addLine_ok_iff {draft next : Draft} {fields : Fields δ} :
    draft.addLine fields = .ok next ↔
      ∃ line, fields.line line.id = .ok line ∧ line.id = fields.lineId?.getD draft.nextId ∧
        next = ⟨{ draft.story with lines := draft.story.lines ++ [line] },
          nextAfter draft.nextId [fields.lineId?]⟩ := by
  unfold Draft.addLine
  simp only [bind_ok_iff]
  constructor
  · rintro ⟨line, read, done⟩
    have id := line_id read
    refine ⟨line, ?_, id, (Except.ok.inj done).symm⟩
    rw [id]
    exact read
  · rintro ⟨line, read, id, rfl⟩
    rw [id] at read
    exact ⟨line, read, rfl⟩

/-- **The lines of a document**, by induction along its entries: the number for the next line is
the invariant. -/
theorem foldlM_addLine_ok_iff {draft next : Draft} {entries : List δ} :
    (entries.map fieldsOf).foldlM Draft.addLine draft = .ok next ↔
      ∃ lines : List Line,
        List.Forall₂ (fun entry line => (fieldsOf entry).line line.id = .ok line) entries lines ∧
        lines.map Line.id = lineIds draft.nextId (entries.map fun e => (fieldsOf e).lineId?) ∧
        next = ⟨{ draft.story with lines := draft.story.lines ++ lines },
          nextAfter draft.nextId (entries.map fun e => (fieldsOf e).lineId?)⟩ := by
  induction entries generalizing draft with
  | nil =>
    simp only [List.map_nil, List.foldlM_nil, List.forall₂_nil_left_iff]
    constructor
    · intro done
      refine ⟨[], rfl, rfl, ?_⟩
      rw [← Except.ok.inj done]
      simp [nextAfter]
    · rintro ⟨lines, rfl, -, rfl⟩
      simp [nextAfter, pure, Except.pure]
  | cons entry rest ih =>
    simp only [List.map_cons, List.foldlM_cons, bind_ok_iff, addLine_ok_iff, ih,
      List.forall₂_cons_left_iff]
    constructor
    · rintro ⟨_, ⟨line, read, id, rfl⟩, lines, others, ids, rfl⟩
      refine ⟨line :: lines, ⟨line, lines, read, others, rfl⟩, ?_, ?_⟩
      · rw [List.map_cons, lineIds, id, ids]
      · simp [nextAfter]
    · rintro ⟨_, ⟨line, lines, read, others, rfl⟩, ids, rfl⟩
      rw [List.map_cons, lineIds, List.cons.injEq] at ids
      refine ⟨_, ⟨line, read, ids.1, rfl⟩, lines, others, ids.2, ?_⟩
      simp [nextAfter]

theorem readAll_ok_iff {α : Type} {part : String} {read : Fields δ → Except Fault α} {d : δ}
    {found : List α} :
    Draft.readAll (fieldsOf d) part read = .ok found ↔
      (part? part d).elim [] (listOffences part) = [] ∧
        Gathered part (fun entry a => read entry = .ok a) [d] found := by
  unfold Draft.readAll
  simp only [bind_ok_iff, entries_eq, readUnless_ok_iff, orFault, mapError_ok_iff, mapM_ok_iff,
    gathered_singleton_iff]
  constructor
  · rintro ⟨_, ⟨free, rfl⟩, each⟩
    exact ⟨free, List.forall₂_map_left_iff.mp each⟩
  · rintro ⟨free, each⟩
    exact ⟨_, ⟨free, rfl⟩, List.forall₂_map_left_iff.mpr each⟩

theorem dataOffences_eq_nil_iff {d : δ} :
    dataOffences d = [] ↔ mappingOffences .document d = [] ∧
      ∀ part ∈ dataSections, (part? part d).elim [] (listOffences part) = [] := by
  unfold dataOffences
  rw [List.append_eq_nil_iff, List.flatMap_eq_nil_iff]

/-- **What adding a document does to a draft**: it goes on with the story and with the ids. -/
theorem addDocument_ok_iff {draft next : Draft} {d : δ} :
    draft.addDocument d = .ok next ↔
      dataOffences d = [] ∧ ∃ more : Story, more.Gathers draft.nextId [d] ∧
        next = ⟨draft.story.append more, nextAfter draft.nextId (idsOf [d])⟩ := by
  unfold Draft.addDocument
  simp only [bind_ok_iff, ofDocument_eq, readUnless_ok_iff, dataOffences_eq_nil_iff, and_assoc,
    exists_and_left, exists_eq_left, readAll_ok_iff, entries_eq, orFault, mapError_ok_iff,
    foldlM_addLine_ok_iff]
  constructor
  · rintro ⟨mapping, free₁, scenes, hs, free₂, _, ⟨lines, hl, ids, rfl⟩, free₃, choices, hc, free₄,
      characters, hp, free₅, defs, hd, done⟩
    refine ⟨mapping, ?_, ⟨scenes, lines, choices, characters, defs⟩, ⟨hs, ?_, ?_, hc, hp, hd⟩, ?_⟩
    · simp only [dataSections, List.forall_mem_cons]
      exact ⟨free₁, free₂, free₃, free₄, free₅, nofun⟩
    · exact gathered_singleton_iff.mpr hl
    · rw [idsOf_singleton]
      exact ids
    · rw [idsOf_singleton]
      exact (Except.ok.inj done).symm
  · rintro ⟨mapping, free, more, gathers, rfl⟩
    simp only [dataSections, List.forall_mem_cons] at free
    obtain ⟨free₁, free₂, free₃, free₄, free₅, -⟩ := free
    have ids := gathers.ids
    rw [idsOf_singleton] at ids ⊢
    exact ⟨mapping, free₁, _, gathers.scenes, free₂, _,
      ⟨_, gathered_singleton_iff.mp gathers.lines, ids, rfl⟩, free₃, _, gathers.choices, free₄, _,
      gathers.characters, free₅, _, gathers.variableDefs, rfl⟩

end

/-! ## 4. Folders -/

/-- What a story folder holds: its manifest, if it has one, and its data documents with their
paths, in the order of their names. -/
structure Bundle (δ : Type) where
  manifest? : Option δ
  documents : List (Path × δ)

namespace Bundle

variable {α δ : Type}

/-- The path of the manifest of a story folder. -/
def manifestPath (folder : Path) : Path := folder.child "story.yaml"

/-- The data documents without their paths. -/
def contents (bundle : Bundle δ) : List δ := bundle.documents.map Prod.snd

/-- **What lies in a folder**, and can be decoded. -/
structure LiesIn (bundle : Bundle δ) (decoder : Decoder α δ) (tree : FileTree α) (folder : Path) :
    Prop where
  isFolder : tree.find folder = .folder
  absent : bundle.manifest? = none → tree.find (manifestPath folder) = .missing
  present : ∀ d, bundle.manifest? = some d →
    Story.document decoder tree (manifestPath folder) = .ok d
  paths : Story.dataFiles tree folder = bundle.documents.map Prod.fst
  decoded : ∀ entry ∈ bundle.documents, Story.document decoder tree entry.1 = .ok entry.2

/-- What the manifest of a folder is read as. -/
def manifest [Layered δ] (logs : Bool) (bundle : Bundle δ) (folder : Path) :
    Except LoadFailure Manifest :=
  match bundle.manifest? with
  | none => .ok { id := folder.name }
  | some d =>
    (Manifest.ofDocument logs folder.name d).mapError (Story.failure (manifestPath folder))

end Bundle

namespace Story

variable {α δ : Type} {decoder : Decoder α δ} {tree : FileTree α} {folder : Path}
  {bundle : Bundle δ} {logs : Bool}

/-- A file with a document is found. -/
theorem find_of_document {file : Path} {d : δ} (decoded : document decoder tree file = .ok d) :
    ∃ content, tree.find file = .file content := by
  unfold document FileTree.read at decoded
  unfold FileTree.find
  cases way : tree.resolve file with
  | error error =>
    rw [way] at decoded
    contradiction
  | ok parts =>
    rw [way] at decoded
    simp only [bind, Except.bind] at decoded ⊢
    cases found : tree.at? parts with
    | file content => exact ⟨content, rfl⟩
    | folder | missing | notFolder | tooLong =>
      rw [found] at decoded
      contradiction

section

variable [Layered δ]

theorem manifest_eq (lies : bundle.LiesIn decoder tree folder) :
    manifest logs decoder tree folder = bundle.manifest logs folder := by
  unfold manifest Bundle.manifest
  cases given : bundle.manifest? with
  | none =>
    have missing := lies.absent given
    unfold Bundle.manifestPath at missing
    simp only [missing]
  | some d =>
    have decoded := lies.present d given
    obtain ⟨content, found⟩ := find_of_document decoded
    unfold Bundle.manifestPath at decoded found ⊢
    simp only [found, decoded]
    rfl

theorem addFiles_cons {draft : Draft} {file : Path} {rest : List Path} {d : δ}
    (decoded : document decoder tree file = .ok d) :
    addFiles decoder tree draft (file :: rest) =
      (draft.addDocument d).mapError (failure file) >>= (addFiles decoder tree · rest) := by
  rw [addFiles, decoded]
  rfl

/-- **Reading data documents one after another**, by induction along them: the story goes on, and
so do the ids. -/
theorem addFiles_ok_iff {draft next : Draft} {documents : List (Path × δ)}
    (decoded : ∀ entry ∈ documents, document decoder tree entry.1 = .ok entry.2) :
    addFiles decoder tree draft (documents.map Prod.fst) = .ok next ↔
      (∀ entry ∈ documents, dataOffences entry.2 = []) ∧
        ∃ more : Story, more.Gathers draft.nextId (documents.map Prod.snd) ∧
          next = ⟨draft.story.append more,
            nextAfter draft.nextId (idsOf (documents.map Prod.snd))⟩ := by
  induction documents generalizing draft with
  | nil =>
    simp only [List.map_nil, addFiles, gathers_nil_iff, exists_eq_left, append_nil]
    constructor
    · intro done
      exact ⟨nofun, (Except.ok.inj done).symm⟩
    · rintro ⟨-, rfl⟩
      rfl
  | cons entry rest ih =>
    rw [List.forall_mem_cons] at decoded
    have whole : (entry :: rest).map Prod.snd = [entry.2] ++ rest.map Prod.snd := rfl
    rw [List.map_cons, addFiles_cons decoded.1, whole, idsOf_append, nextAfter_append,
      List.forall_mem_cons]
    simp only [bind_ok_iff, mapError_ok_iff, addDocument_ok_iff, ih decoded.2, gathers_append_iff]
    constructor
    · rintro ⟨_, ⟨first, a, before, rfl⟩, others, b, after, rfl⟩
      exact ⟨⟨first, others⟩, a.append b, ⟨a, b, before, after, rfl⟩, by rw [append_assoc]⟩
    · rintro ⟨⟨first, others⟩, _, ⟨a, b, before, after, rfl⟩, rfl⟩
      exact ⟨_, ⟨first, a, before, rfl⟩, others, b, after, by rw [append_assoc]⟩

/-- **What a folder is loaded as.** -/
theorem load_ok_iff (lies : bundle.LiesIn decoder tree folder) {story : Story} {info : Manifest} :
    load logs decoder tree folder = .ok (story, info) ↔
      bundle.manifest logs folder = .ok info ∧
        (∀ entry ∈ bundle.documents, dataOffences entry.2 = []) ∧
          story.Gathers 1 bundle.contents := by
  unfold load
  rw [lies.isFolder]
  simp only [bind_ok_iff, manifest_eq lies, lies.paths, addFiles_ok_iff lies.decoded]
  constructor
  · rintro ⟨info', read, _, ⟨free, more, gathers, rfl⟩, done⟩
    obtain ⟨rfl, rfl⟩ := Prod.mk.inj (Except.ok.inj done)
    exact ⟨read, free, gathers⟩
  · rintro ⟨read, free, gathers⟩
    exact ⟨info, read, _, ⟨free, story, gathers, rfl⟩, rfl⟩

end

end Story

/-! ## 5. A folder from its documents -/

/-- The data documents of a folder in which nothing else lies, and they in order. -/
theorem dataFiles_eq {α : Type} {tree : FileTree α} {folder : Path} {names : List String}
    (found : tree.find (folder.child "data") = .folder)
    (listed : tree.names (folder.child "data") = names) (yaml : names.all Story.isDataName = true)
    (sorted : names.Pairwise fun (a b : String) => Text.le a b = true) :
    Story.dataFiles tree folder = names.map (folder.child "data").child := by
  unfold Story.dataFiles
  simp only [found, listed]
  rw [List.filter_eq_self.mpr (List.all_eq_true.mp yaml), List.mergeSort_of_pairwise sorted]

namespace Tale

variable {δ : Type}

/-- The folder of a tale. -/
def folder : Path := { parts := ["tale"] }

/-- What lies in it: data documents with their names, and maybe a manifest. -/
def bundle (manifest? : Option δ) (documents : List (String × δ)) : Bundle δ where
  manifest? := manifest?
  documents := documents.map fun entry => ((folder.child "data").child entry.1, entry.2)

/-- The files of the folder; the content of a file is its document. -/
def tree (manifest? : Option δ) (documents : List (String × δ)) : FileTree δ where
  files := (manifest?.map fun d => (["tale", "story.yaml"], d)).toList ++
    documents.map fun entry => (["tale", "data", entry.1], entry.2)

theorem liesIn {manifest? : Option δ} {documents : List (String × δ)}
    (isFolder : (tree manifest? documents).find folder = .folder)
    (absent : manifest? = none →
      (tree manifest? documents).find (Bundle.manifestPath folder) = .missing)
    (present : ∀ d, manifest? = some d →
      Story.document .ok (tree manifest? documents) (Bundle.manifestPath folder) = .ok d)
    (found : (tree manifest? documents).find (folder.child "data") = .folder)
    (names : (tree manifest? documents).names (folder.child "data") = documents.map Prod.fst)
    (yaml : (documents.map Prod.fst).all Story.isDataName = true)
    (sorted : (documents.map Prod.fst).Pairwise fun (a b : String) => Text.le a b = true)
    (decoded : ∀ entry ∈ documents,
      Story.document .ok (tree manifest? documents) ((folder.child "data").child entry.1) =
        .ok entry.2) :
    (bundle manifest? documents).LiesIn .ok (tree manifest? documents) folder where
  isFolder := isFolder
  absent := absent
  present := present
  paths := by
    rw [dataFiles_eq found names yaml sorted]
    simp [bundle]
  decoded := List.forall_mem_map.mpr decoded

end Tale
end Gamebook

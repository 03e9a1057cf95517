/-
# Signposts to scenes

A scene is named in many places: by its own entry, by its lines and by the choices that lead to it,
and in the manifest by what stands beside it as a label, a text on the way or a milestone.  In the
first three the name is the content of a field, in the others it is a key.  This file settles when
they are one name, in `signposted`.

* **Words.**  A field and a key write an atom alike, unless it is a truth value or null
  (`Atom.plain_eq_content_iff`): these are words of the content grammar in a field only.
* **Keyed.**  Labels, texts and milestones are tables under the plain texts of keys (`Keyed`).  What
  a table has for a name stands last under a key of this text (`Keyed.find?`), and an entry under
  another key might as well be missing (`Keyed.without`).
* **On the screen.**  So what is written beside a scene is shown with it, and what is written under
  a truth value or null is as good as not written.
-/
import Gamebook.Console.Play
import Gamebook.Proofs.Story.Judgments
import Gamebook.Proofs.Table

namespace Gamebook

open Layered

/-! ## 1. Words -/

/-- Whether an atom is a truth value or null, for which the content of a field has words of its
own. -/
def Atom.isWord : Atom → Bool
  | .null | .bool _ => true
  | _ => false

/-- **A key and a field write an atom alike, unless it is a truth value or null.** -/
theorem Atom.plain_eq_content_iff (k : Atom) : k.plain = k.content ↔ k.isWord = false := by
  cases k with
  | null => decide
  | bool b => cases b <;> decide
  | number | text | date | moment | bytes => exact iff_of_true rfl rfl

theorem Atom.plain_eq_of_content {k : Atom} {name : Text} (other : k.isWord = false)
    (content : k.content = .ok name) : k.plain = .ok name :=
  (k.plain_eq_content_iff.mpr other).trans content

theorem Atom.plain_ne_of_content {k : Atom} {name : Text} (word : k.isWord = true)
    (content : k.content = .ok name) : k.plain ≠ .ok name := by
  intro plain
  have other := k.plain_eq_content_iff.mp (plain.trans content.symm)
  exact absurd (word.symm.trans other) nofun

section

variable {α δ : Type}

/-! ## 2. Tables under keys -/

/-- What is written from the fields of a section, one after another: each value under the plain text
of its key, where `reads` is how values are read. -/
def Posted (reads : δ → α → Prop) : Fields δ → List (Text × α) → Prop :=
  List.Forall₂ fun field entry => field.1.plain = .ok entry.1 ∧ reads field.2 entry.2

/-- **A table of what is written from a section.** -/
def Keyed (reads : δ → α → Prop) (fields : Fields δ) (table : Table α) : Prop :=
  ∃ written, Posted reads fields written ∧ table = Table.ofList written

/-- What stands last in a section under a key, or under one of the same text. -/
def StandsLast (fields : Fields δ) (k : Atom) (value : δ) : Prop :=
  ∃ before after, fields = before ++ (k, value) :: after ∧ ∀ later ∈ after, later.1.plain ≠ k.plain

section

variable {reads : δ → α → Prop} {fields before after : Fields δ} {table : Table α} {k : Atom}
  {value : δ} {name : Text}

/-- What is not among the keys of a section is not written. -/
theorem Posted.lookup_eq_none {written : List (Text × α)} (each : Posted reads fields written)
    (absent : ∀ field ∈ fields, field.1.plain ≠ .ok name) : written.reverse.lookup name = none := by
  induction each with
  | nil => rfl
  | cons first others ih =>
    rw [List.forall_mem_cons] at absent
    have passed : (name == _) = false := beq_eq_false_iff_ne.mpr fun same =>
      absent.1 (first.1.trans (congrArg Except.ok same.symm))
    rw [List.reverse_cons, List.lookup_append, ih absent.2, List.lookup_cons, passed]
    rfl

/-- The place of a field of the section in what is written. -/
theorem Keyed.split (keyed : Keyed reads (before ++ (k, value) :: after) table) :
    ∃ first text a later, Posted reads before first ∧ k.plain = .ok text ∧ reads value a ∧
      Posted reads after later ∧ table = Table.ofList (first ++ (text, a) :: later) := by
  obtain ⟨written, each, rfl⟩ := keyed
  obtain ⟨first, rest, eachFirst, eachRest, rfl⟩ := forall₂_append_left_iff.mp each
  obtain ⟨⟨text, a⟩, later, ⟨key, read⟩, others, rfl⟩ := List.forall₂_cons_left_iff.mp eachRest
  exact ⟨first, text, a, later, eachFirst, key, read, others, rfl⟩

/-- **A table finds for the text of a key what stands last under it.** -/
theorem Keyed.find? (keyed : Keyed reads fields table) (last : StandsLast fields k value)
    (plain : k.plain = .ok name) : ∃ a, reads value a ∧ table.find? name = some a := by
  obtain ⟨before, after, rfl, differ⟩ := last
  obtain ⟨first, text, a, later, -, key, read, others, rfl⟩ := keyed.split
  obtain rfl := Except.ok.inj (plain.symm.trans key)
  have notLater : later.reverse.lookup name = none :=
    others.lookup_eq_none fun field mem => plain ▸ differ field mem
  refine ⟨a, read, ?_⟩
  rw [Table.find?_ofList, List.reverse_append, List.reverse_cons, List.append_assoc,
    List.lookup_append, notLater, Option.none_or, List.singleton_append, List.lookup_cons_self]

/-- **What stands under a key of another text might as well be missing.** -/
theorem Keyed.without (keyed : Keyed reads (before ++ (k, value) :: after) table)
    (other : k.plain ≠ .ok name) :
    ∃ left, Keyed reads (before ++ after) left ∧ table.find? name = left.find? name := by
  obtain ⟨first, text, a, later, eachFirst, key, -, others, rfl⟩ := keyed.split
  refine ⟨_, ⟨first ++ later, List.rel_append eachFirst others, rfl⟩, ?_⟩
  have passed : (name == text) = false := by
    refine beq_eq_false_iff_ne.mpr ?_
    rintro rfl
    exact other key
  simp only [Table.find?_ofList, List.reverse_append, List.reverse_cons, List.append_assoc,
    List.lookup_append, List.lookup_cons, passed, List.singleton_append]

end

end

/-! ## 3. The tables of a manifest -/

section

variable {δ : Type} [Layered δ] {fields : Fields δ} {document : δ} {logs : Bool}

/-- The entries of a mapping in a story. -/
def sectionOf (part : String) (story : δ) : Fields δ := (part? part story).elim [] fieldsOf

/-- The entries about milestones in a story, which must be a mapping. -/
def milestonesIn (story : δ) : Option (Fields δ) :=
  match ((sectionOf "engine" story).named? "progress_milestones").map layer with
  | some (.map found) => some found
  | _ => none

/-- How the texts of a manifest are read. -/
def ReadsText (value : δ) (text : Text) : Prop := content value = .ok text

/-- How milestones are read. -/
def ReadsDouble (value : δ) (n : Number) : Prop :=
  ∃ x, Config.double? value = .ok (some x) ∧ n = .double x

/-- Whether an entry can be used as a milestone; if one cannot be, none is. -/
def Usable (field : Atom × δ) : Prop :=
  (∃ name, field.1.plain = .ok name) ∧ ∃ x, Config.double? field.2 = .ok (some x)

theorem keyed_texts {table : Table Text} (read : fields.texts = .ok table) :
    Keyed ReadsText fields table := by
  unfold Fields.texts at read
  cases entries : fields.mapM Fields.textEntry with
  | error fault =>
    rw [entries] at read
    cases read
  | ok written =>
    rw [entries] at read
    refine ⟨written, (mapM_ok_iff.mp entries).imp fun field entry read => ?_,
      (Except.ok.inj read).symm⟩
    simp only [Fields.textEntry, bind_ok_iff] at read
    obtain ⟨key, plain, text, read, done⟩ := read
    obtain rfl := Except.ok.inj done
    exact ⟨plain, read⟩

theorem milestonesOf_usable (usable : ∀ field ∈ fields, Usable field) :
    ∃ written, Config.milestonesOf fields = .ok (some written) ∧
      Posted ReadsDouble fields written := by
  induction fields with
  | nil => exact ⟨[], rfl, .nil⟩
  | cons field rest ih =>
    rw [List.forall_mem_cons] at usable
    obtain ⟨⟨name, key⟩, x, read⟩ := usable.1
    obtain ⟨written, others, each⟩ := ih usable.2
    refine ⟨(name, .double x) :: written, ?_, .cons ⟨key, x, read, rfl⟩ each⟩
    simp only [Config.milestonesOf, key, read, others]
    rfl

/-- **What the tables of a manifest are written from.** -/
structure Manifest.Tables (info : Manifest) (story : δ) : Prop where
  labels : Keyed ReadsText (sectionOf "scene_labels" story) info.sceneLabels
  transitions : Keyed ReadsText (sectionOf "transition_text" story) info.transitionTexts
  milestones : ∀ found, milestonesIn story = some found → (∀ field ∈ found, Usable field) →
    Keyed ReadsDouble found info.config.milestones

/-- The milestones of a configuration. -/
theorem milestonesAt_of_config {config : Config}
    (read : Config.ofFields logs fields = .ok config) :
    Config.milestonesAt fields ({} : Config).milestones = .ok config.milestones := by
  unfold Config.ofFields at read
  obtain ⟨milestones, found, read⟩ := bind_ok_iff.mp read
  rw [found]
  simp only [bind_ok_iff] at read
  obtain ⟨_, -, _, -, _, -, _, -, _, -, _, -, _, -, _, -, _, -, _, -, _, -, done⟩ := read
  rw [← Except.ok.inj done]

/-- Milestones that can all be used are those of the configuration. -/
theorem keyed_milestones {config : Config} {found : Fields δ}
    (read : Config.ofFields logs fields = .ok config)
    (named : (fields.named? "progress_milestones").map layer = some (.map found))
    (usable : ∀ field ∈ found, Usable field) : Keyed ReadsDouble found config.milestones := by
  have milestones := milestonesAt_of_config read
  obtain ⟨written, used, each⟩ := milestonesOf_usable usable
  rw [Config.milestonesAt, named] at milestones
  simp only [used] at milestones
  exact ⟨written, each, (Except.ok.inj milestones).symm⟩

theorem Manifest.tables_of_story {folder : Text} {info : Manifest} {story : δ}
    (read : Manifest.ofStory logs folder (fieldsOf story) = .ok info) : info.Tables story := by
  simp only [Manifest.ofStory, section?_eq, bind_ok_iff] at read
  obtain ⟨labels, readLabels, transitions, readTransitions, _, -, _, -, _, -, _, -, _, -,
    labelTexts, textLabels, transitionTexts, textTransitions, engine, readEngine, config,
    configured, done⟩ := read
  obtain rfl := (readUnless_ok_iff.mp readLabels).2
  obtain rfl := (readUnless_ok_iff.mp readTransitions).2
  obtain rfl := (readUnless_ok_iff.mp readEngine).2
  obtain rfl := Except.ok.inj done
  refine ⟨keyed_texts (mapError_ok_iff.mp textLabels),
    keyed_texts (mapError_ok_iff.mp textTransitions), fun found standing usable => ?_⟩
  refine keyed_milestones (mapError_ok_iff.mp configured) ?_ usable
  unfold milestonesIn at standing
  split at standing
  · rename_i named
    rw [← Option.some.inj standing]
    exact named
  · contradiction

/-- **The tables of a manifest are written from the story in its document.** -/
theorem Manifest.tables_of_document {folder : Text} {info : Manifest}
    (read : Manifest.ofDocument logs folder document = .ok info) :
    info.Tables (storyPart document) := by
  rw [Manifest.ofDocument_eq] at read
  obtain ⟨fields, readFields, read⟩ := bind_ok_iff.mp read
  rw [Gamebook.ofDocument_eq] at readFields
  obtain rfl := (readUnless_ok_iff.mp readFields).2
  obtain ⟨story, readStory, read⟩ := bind_ok_iff.mp read
  have inStory := (story_eq document).symm.trans readStory
  obtain rfl := (readUnless_ok_iff.mp inStory).2
  exact tables_of_story read

end

/-! ## 4. On the screen -/

/-- The header of a scene with a label, which may be empty. -/
def Scene.headed (scene : Scene) (label : Text) (percent : Int) : Text :=
  let name : Text := "【" ++ scene.name ++ "】"
  (if label.isEmpty then name else label ++ " " ++ name) ++ "  (" ++ toString percent ++ "%)"

/-- Goes to the staged destination, with a text on the way, which may be empty. -/
def Console.crossBy (c : Console) (text : Text) : Except Crash Console :=
  (if text.isEmpty then c else c.sayAll ["", text]).perform .complete

theorem Console.header_of_find? {c : Console} {scene : Scene} {label? : Option Text}
    (found : c.manifest.sceneLabels.find? scene.id = label?) (percent : Int) :
    c.header scene percent = scene.headed (label?.getD []) percent := by
  rw [Console.header, found]
  rfl

theorem Console.cross_of_find? {c : Console} {target : Text} {text? : Option Text}
    (staged : c.session.staging.destination = some target)
    (found : c.manifest.transitionTexts.find? target = text?) :
    c.cross = c.crossBy (text?.getD []) := by
  simp only [Console.cross, staged, found]
  rfl

theorem Session.progress_of_find? {s : Session} {game : Game} {milestone? : Option Number}
    (inside : s.inEnding game = false) (found : game.config.milestones.find? s.scene = milestone?) :
    s.progress game = milestone?.getD (.double (.zero false)) := by
  rw [Session.progress, inside, found]
  rfl

/-! ## 5. What is written beside a scene -/

section

variable {δ : Type} [Layered δ]

/-- Whether a field of an entry is an atom. -/
def Fields.Names (entry : Fields δ) (field : String) (k : Atom) : Prop :=
  ∃ d, entry.named? field = some d ∧ layer d = .atom k

theorem Fields.Names.content_eq {entry : Fields δ} {field : String} {k : Atom}
    (names : entry.Names field k) : entry.content field = k.content := by
  obtain ⟨d, named, kind⟩ := names
  rw [Fields.content, Fields.contentOr, named]
  simp only [Layered.content, kind]

/-- Whether a console plays what a document says. -/
structure Console.Plays (c : Console) (document : δ) : Prop where
  manifest : ∃ logs folder, Manifest.ofDocument logs folder document = .ok c.manifest
  config : c.game.config = c.manifest.config

/-- **What comes of an atom that names a scene**, in the manifest `document` and everywhere else. -/
structure Signposted (document : δ) (k : Atom) : Prop where
  /-- Fields that are this atom name one scene: of a scene … -/
  scene : ∀ (entry : Fields δ) (scene : Scene), entry.Names "scene_id" k →
    entry.scene = .ok scene → k.content = .ok scene.id
  /-- … of a line … -/
  line : ∀ (entry : Fields δ) (id : Int) (line : Line), entry.Names "scene_id" k →
    entry.line id = .ok line → k.content = .ok line.scene
  /-- … and of a choice. -/
  choice : ∀ (entry : Fields δ) (choice : Choice), entry.Names "next_scene" k →
    entry.choice = .ok choice → k.content = .ok choice.destination
  /-- A key has the same text, unless the atom is a truth value or null. -/
  key : k.plain = k.content ↔ k.isWord = false
  /-- So the label that stands under the atom is shown with the scene … -/
  label : k.isWord = false → ∀ name, k.content = .ok name → ∀ c : Console, c.Plays document →
    ∀ value, StandsLast (sectionOf "scene_labels" (storyPart document)) k value →
      ∃ label, content value = .ok label ∧
        ∀ scene percent, scene.id = name → c.header scene percent = scene.headed label percent
  /-- … the text on the way to it … -/
  transition : k.isWord = false → ∀ name, k.content = .ok name → ∀ c : Console,
    c.Plays document → ∀ value,
      StandsLast (sectionOf "transition_text" (storyPart document)) k value →
        ∃ text, content value = .ok text ∧
          (c.session.staging.destination = some name → c.cross = c.crossBy text)
  /-- … and the milestone in it, where the milestones can be used. -/
  milestone : k.isWord = false → ∀ name, k.content = .ok name → ∀ c : Console,
    c.Plays document → ∀ found, milestonesIn (storyPart document) = some found →
      (∀ field ∈ found, Usable field) → ∀ value, StandsLast found k value →
        ∃ x, Config.double? value = .ok (some x) ∧
          ∀ s : Session, s.scene = name → s.inEnding c.game = false →
            s.progress c.game = .double x
  /-- For a truth value or null, a label might as well be missing … -/
  unlabelled : k.isWord = true → ∀ name, k.content = .ok name → ∀ c : Console,
    c.Plays document → ∀ before value after,
      sectionOf "scene_labels" (storyPart document) = before ++ (k, value) :: after →
        ∃ left, Keyed ReadsText (before ++ after) left ∧ ∀ scene percent, scene.id = name →
          c.header scene percent = scene.headed ((left.find? name).getD []) percent
  /-- … and a text on the way … -/
  untold : k.isWord = true → ∀ name, k.content = .ok name → ∀ c : Console,
    c.Plays document → ∀ before value after,
      sectionOf "transition_text" (storyPart document) = before ++ (k, value) :: after →
        ∃ left, Keyed ReadsText (before ++ after) left ∧
          (c.session.staging.destination = some name →
            c.cross = c.crossBy ((left.find? name).getD []))
  /-- … and a milestone. -/
  unmeasured : k.isWord = true → ∀ name, k.content = .ok name → ∀ c : Console,
    c.Plays document → ∀ before value after,
      milestonesIn (storyPart document) = some (before ++ (k, value) :: after) →
        (∀ field ∈ before ++ (k, value) :: after, Usable field) →
          ∃ left, Keyed ReadsDouble (before ++ after) left ∧
            ∀ s : Session, s.scene = name → s.inEnding c.game = false →
              s.progress c.game = (left.find? name).getD (.double (.zero false))

theorem Console.Plays.tables {c : Console} {document : δ} (plays : c.Plays document) :
    c.manifest.Tables (storyPart document) := by
  obtain ⟨_, _, read⟩ := plays.manifest
  exact Manifest.tables_of_document read

/-- **What is written beside a scene in the manifest is shown with it, unless it is written under a
truth value or null.** -/
theorem signposted (document : δ) (k : Atom) : Signposted document k where
  scene entry scene names read := by
    simp only [Fields.scene, bind_ok_iff, names.content_eq] at read
    obtain ⟨id, content, _, -, _, -, _, -, done⟩ := read
    rw [content, ← Except.ok.inj done]
  line entry id line names read := by
    simp only [Fields.line, bind_ok_iff, names.content_eq] at read
    obtain ⟨scene, content, _, -, _, -, _, -, done⟩ := read
    rw [content, ← Except.ok.inj done]
  choice entry choice names read := by
    simp only [Fields.choice, bind_ok_iff, names.content_eq] at read
    obtain ⟨_, -, _, -, _, -, _, -, destination, content, _, -, done⟩ := read
    rw [content, ← Except.ok.inj done]
  key := k.plain_eq_content_iff
  label other name content c plays value last := by
    have plain := Atom.plain_eq_of_content other content
    obtain ⟨label, read, found⟩ := plays.tables.labels.find? last plain
    refine ⟨label, read, fun scene percent same => ?_⟩
    subst same
    exact Console.header_of_find? found percent
  transition other name content c plays value last := by
    have plain := Atom.plain_eq_of_content other content
    obtain ⟨text, read, found⟩ := plays.tables.transitions.find? last plain
    exact ⟨text, read, fun staged => Console.cross_of_find? staged found⟩
  milestone other name content c plays fields standing usable value last := by
    have plain := Atom.plain_eq_of_content other content
    obtain ⟨_, ⟨x, read, rfl⟩, found⟩ :=
      (plays.tables.milestones fields standing usable).find? last plain
    refine ⟨x, read, fun s same inside => ?_⟩
    subst same
    rw [← plays.config] at found
    exact Session.progress_of_find? inside found
  unlabelled word name content c plays before value after split := by
    have differ := Atom.plain_ne_of_content word content
    have labels := plays.tables.labels
    rw [split] at labels
    obtain ⟨left, keyed, same⟩ := labels.without differ
    refine ⟨left, keyed, fun scene percent named => ?_⟩
    subst named
    exact Console.header_of_find? same percent
  untold word name content c plays before value after split := by
    have differ := Atom.plain_ne_of_content word content
    have transitions := plays.tables.transitions
    rw [split] at transitions
    obtain ⟨left, keyed, same⟩ := transitions.without differ
    exact ⟨left, keyed, fun staged => Console.cross_of_find? staged same⟩
  unmeasured word name content c plays before value after standing usable := by
    have differ := Atom.plain_ne_of_content word content
    obtain ⟨left, keyed, same⟩ := (plays.tables.milestones _ standing usable).without differ
    refine ⟨left, keyed, fun s named inside => ?_⟩
    subst named
    rw [← plays.config] at same
    exact Session.progress_of_find? inside same

/-- A manifest with a label for the scene `yes`, which is a truth value. -/
def chapterManifest : Datum :=
  .map [(.text "story", .map [(.text "id", .text "tale"),
    (.text "scene_labels", .map [(.bool true, .text "Chapter")])])]

/-- The entry of the scene `yes`. -/
def gateEntry : Fields Datum :=
  [(.text "scene_id", .atom (.bool true)), (.text "scene_name", .text "Gate")]

def gate : Scene := { id := "true", name := "Gate" }

/-- **A label that is not found**: the scene is `true`, but the label stands under `True`. -/
theorem unlabelled_gate :
    gateEntry.Names "scene_id" (.bool true) ∧ gateEntry.scene = .ok gate ∧
      StandsLast (sectionOf "scene_labels" (storyPart chapterManifest)) (.bool true)
        (.text "Chapter") ∧
      ∃ info, Manifest.ofDocument true "s" chapterManifest = .ok info ∧
        ∀ c : Console, c.manifest = info → ∀ percent,
          c.header gate percent = gate.headed [] percent ∧
            c.header gate percent ≠ gate.headed "Chapter" percent := by
  refine ⟨⟨_, rfl, rfl⟩, rfl, ⟨[], [], rfl, List.forall_mem_nil _⟩, ?_⟩
  have missing : (Manifest.ofDocument true "s" chapterManifest).toOption.map
      (fun info => info.sceneLabels.find? gate.id) = some none := by decide +kernel
  cases read : Manifest.ofDocument true "s" chapterManifest with
  | error e =>
    rw [read] at missing
    cases missing
  | ok info =>
    rw [read] at missing
    refine ⟨info, rfl, ?_⟩
    rintro c rfl percent
    have bare := Console.header_of_find? (Option.some.inj missing) percent
    refine ⟨bare, fun labelled => ?_⟩
    have bracket : (gate.headed [] percent).head? = some (.char '【') := rfl
    have letter : (gate.headed "Chapter" percent).head? = some (.char 'C') := rfl
    rw [← labelled, bare, Option.getD_none, bracket] at letter
    exact absurd letter (by decide)

end

end Gamebook

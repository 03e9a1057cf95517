/-
# Documents and their offences

A document is judged by the list of its offences: it is read if there are none, and refused for the
first one.  `Settled` says so of a reading, and `Settled.bind` of what is read one after another:
the offences of what comes later stand behind.

A section is looked at only when the entries of the sections before it are read, so that anything
else that goes wrong with an entry comes first.  What this may be depends on how documents are
written down, and is left open here: `Tame` parts of documents are those from which reading has only
some faults.  From them a data document (`Tame.judged_addDocument`) and a manifest
(`Tame.judged_manifest`) are judged by their offences, unless one of those faults ends the reading.
-/
import Gamebook.Proofs.Story.Sections
import Gamebook.Proofs.Yaml.Places

namespace Gamebook

open Layered

/-! ## 1. Readings that are judged by a list of offences -/

section

variable {ω ε α β : Type} {blames : ω → ε → Prop} {fails : ε → Prop} {offences more : List ω}

/-- **What a reading comes to whose offences are known**: it is read if there are none, or it is
refused for the first one; and it may fail in some other way before. -/
inductive Settled (blames : ω → ε → Prop) (fails : ε → Prop) : List ω → Except ε α → Prop
  | read (a : α) : Settled blames fails [] (.ok a)
  | refused {offence : ω} {error : ε} (rest : List ω) (blame : blames offence error) :
      Settled blames fails (offence :: rest) (.error error)
  | failed {error : ε} (offences : List ω) (failure : fails error) :
      Settled blames fails offences (.error error)

/-- What is read next has its offences behind those of what was read before. -/
theorem Settled.bind {read : Except ε α} {next : α → Except ε β}
    (first : Settled blames fails offences read)
    (after : ∀ a, read = .ok a → Settled blames fails more (next a)) :
    Settled blames fails (offences ++ more) (read >>= next) := by
  cases first with
  | read a => exact after a rfl
  | refused rest blame => exact .refused (rest ++ more) blame
  | failed offences failure => exact .failed (offences ++ more) failure

theorem Settled.eq_nil {a : α} (h : Settled blames fails offences (.ok a)) : offences = [] := by
  cases h
  rfl

theorem Settled.of_error {error : ε}
    (h : Settled blames fails offences (.error error : Except ε α)) :
    fails error ∨ ∃ offence rest, offences = offence :: rest ∧ blames offence error := by
  cases h with
  | refused rest blame => exact .inr ⟨_, rest, rfl, blame⟩
  | failed _ failure => exact .inl failure

/-- The same reading with its offences and errors told in another way. -/
theorem Settled.mapError {ω' ε' : Type} {blames' : ω' → ε' → Prop} {fails' : ε' → Prop}
    {f : ω → ω'} {g : ε → ε'} {read : Except ε α} (h : Settled blames fails offences read)
    (blamed : ∀ offence error, blames offence error → blames' (f offence) (g error))
    (failed : ∀ error, fails error → fails' (g error)) :
    Settled blames' fails' (offences.map f) (read.mapError g) := by
  cases h with
  | read a => exact .read a
  | refused rest blame => exact .refused _ (blamed _ _ blame)
  | failed offences failure => exact .failed _ (failed _ failure)

end

/-! ## 2. Documents that are read without faults, but for some -/

theorem failsOnly_toBinary64 {faulty : Fault → Prop} {n : Number} (near : ¬ n.Beyond) :
    FailsOnly faulty n.toBinary64 := by
  intro fault failed
  exact absurd (Number.toBinary64_eq_error_iff.mp failed).2 near

section

variable {δ : Type} [Layered δ] {good : δ → Prop} {faulty : Fault → Prop} {d e : δ}
  {fields : Fields δ} {logs : Bool}

/-- Whether a warning is written of a value that is nested too deeply to be shown. -/
def Config.Untold (logs : Bool) (d : δ) : Prop := logs = true ∧ shown d = .error .tooDeep

/-- **Only what is nested too deeply cannot be warned of.** -/
theorem Config.warn_eq_error_iff {fault : Fault} :
    Config.warn logs d = .error fault ↔ fault = .tooDeep ∧ Config.Untold logs d := by
  unfold Config.warn Config.Untold
  cases logs with
  | false => simp
  | true =>
    rw [if_pos rfl]
    split
    · rename_i deep
      simp [deep, eq_comm]
    · rename_i other
      exact iff_of_false nofun fun ⟨_, _, deep⟩ => other deep

/-- A configuration fails only as its parts do; the defaults of its numbers have doubles near
them. -/
theorem Config.failsOnly_of_parts
    (milestones : ∀ default, FailsOnly faulty (Config.milestonesAt fields default))
    (seed : FailsOnly faulty (Config.seedAt logs fields))
    (texts : ∀ key default, FailsOnly faulty (Config.textAt logs fields key default))
    (numbers : ∀ key default, ¬ default.Beyond →
      FailsOnly faulty (Config.doubleAt logs fields key default)) :
    FailsOnly faulty (Config.ofFields logs fields) := by
  unfold Config.ofFields
  refine (milestones _).bind fun _ => seed.bind fun _ => ?_
  refine (texts _ _).bind fun _ => (texts _ _).bind fun _ => (texts _ _).bind fun _ => ?_
  refine (texts _ _).bind fun _ => (texts _ _).bind fun _ => ?_
  refine (numbers _ _ (Number.not_beyond_of_small (by decide))).bind fun _ => ?_
  refine (numbers _ _ (Number.not_beyond_of_small (by decide))).bind fun _ => ?_
  refine (numbers _ _ (Number.not_beyond_of_small (by decide))).bind fun _ => ?_
  refine (numbers _ _ (Number.not_beyond_double _)).bind fun _ => ?_
  exact (numbers _ _ (Number.not_beyond_double _)).bind fun _ => failsOnly_ok _

/-- Fields whose keys have no integer beyond the doubles, and whose values are good. -/
def GoodFields (good : δ → Prop) (fields : Fields δ) : Prop :=
  ∀ field ∈ fields, field.1.Fits ∧ good field.2

/-- **Parts of documents from which reading has only some faults**: their integers have doubles near
them, and so have those of the parts that belong to them. -/
structure Tame (good : δ → Prop) (faulty : Fault → Prop) : Prop where
  atom : ∀ d a, good d → layer d = .atom a → a.Fits
  items : ∀ d items, good d → layer d = .list items → ∀ item ∈ items, good item
  fields : ∀ d fields, good d → layer d = .map fields → GoodFields good fields
  shown : ∀ d, good d → FailsOnly faulty (shown d)

namespace Tame

variable (tame : Tame good faulty)
include tame

theorem failsOnly_content (h : good d) : FailsOnly faulty (content d) := by
  unfold content
  split
  · rename_i a kind
    exact (tame.atom d a h kind).content
  · exact (tame.shown d h).map _

theorem good_fieldsOf (h : good d) : GoodFields good (fieldsOf d) := by
  unfold fieldsOf
  split
  · rename_i fields kind
    exact tame.fields d fields h kind
  · exact List.forall_mem_nil _

theorem good_itemsOf (h : good d) : ∀ item ∈ itemsOf d, good item := by
  unfold itemsOf
  split
  · rename_i items kind
    exact tame.items d items h kind
  · exact List.forall_mem_nil _

theorem good_part (h : good d) {name : String} (named : part? name d = some e) : good e := by
  obtain ⟨field, mem, rfl⟩ := Fields.mem_of_named? named
  exact (tame.good_fieldsOf h field mem).2

theorem good_entriesOf (h : good d) {part : String} : ∀ entry ∈ entriesOf part d, good entry := by
  unfold entriesOf
  cases named : part? part d with
  | none => exact List.forall_mem_nil _
  | some found => exact tame.good_itemsOf (tame.good_part h named)

theorem legible (h : good d) : Legible faulty (fieldsOf d) :=
  fun field mem => tame.failsOnly_content (tame.good_fieldsOf h field mem).2

theorem failsOnly_texts (h : GoodFields good fields) :
    FailsOnly faulty fields.texts := by
  unfold Fields.texts
  refine (FailsOnly.mapM fun field mem => ?_).map _
  refine (h field mem).1.plain.bind fun _ => ?_
  exact (tame.failsOnly_content (h field mem).2).bind fun _ => failsOnly_ok _

/-! ### The configuration -/

theorem failsOnly_double (h : good d) : FailsOnly faulty (Config.double? d) := by
  unfold Config.double?
  split
  · exact failsOnly_ok _
  · rename_i n kind
    exact (failsOnly_toBinary64 (tame.atom d _ h kind)).map _
  · exact failsOnly_ok _
  · exact failsOnly_ok _
  · exact failsOnly_ok _

/-- What cannot be warned of cannot be shown. -/
theorem failsOnly_warn (h : good d) : FailsOnly faulty (Config.warn logs d) := by
  intro fault failed
  obtain ⟨rfl, -, deep⟩ := Config.warn_eq_error_iff.mp failed
  exact tame.shown d h _ deep

theorem failsOnly_doubleAt (h : GoodFields good fields) (key : Text)
    {default : Number} (near : ¬ default.Beyond) :
    FailsOnly faulty (Config.doubleAt logs fields key default) := by
  unfold Config.doubleAt
  cases named : fields.named? key with
  | none => exact (failsOnly_toBinary64 near).map _
  | some d =>
    obtain ⟨field, mem, rfl⟩ := Fields.mem_of_named? named
    refine (tame.failsOnly_double (h field mem).2).bind fun x? => ?_
    cases x? with
    | none => exact (tame.failsOnly_warn (h field mem).2).bind fun _ => failsOnly_ok _
    | some x => exact failsOnly_ok _

theorem failsOnly_textAt (h : GoodFields good fields) (key default : Text) :
    FailsOnly faulty (Config.textAt logs fields key default) := by
  unfold Config.textAt
  cases named : fields.named? key with
  | none => exact failsOnly_ok _
  | some d =>
    obtain ⟨field, mem, rfl⟩ := Fields.mem_of_named? named
    dsimp only
    split
    · exact failsOnly_ok _
    · exact (tame.failsOnly_warn (h field mem).2).bind fun _ => failsOnly_ok _

theorem failsOnly_seedAt (h : GoodFields good fields) :
    FailsOnly faulty (Config.seedAt logs fields) := by
  unfold Config.seedAt
  cases named : fields.named? "seed" with
  | none => exact failsOnly_ok _
  | some d =>
    obtain ⟨field, mem, rfl⟩ := Fields.mem_of_named? named
    dsimp only
    split
    · exact failsOnly_ok _
    · exact failsOnly_ok _
    · exact (tame.failsOnly_warn (h field mem).2).bind fun _ => failsOnly_ok _

theorem failsOnly_milestonesOf (h : GoodFields good fields) :
    FailsOnly faulty (Config.milestonesOf fields) := by
  induction fields with
  | nil => exact failsOnly_ok _
  | cons field rest ih =>
    rw [GoodFields, List.forall_mem_cons] at h
    unfold Config.milestonesOf
    split
    · exact failsOnly_ok _
    · refine (tame.failsOnly_double h.1.2).bind fun x? => ?_
      cases x? with
      | none => exact failsOnly_ok _
      | some x => exact (ih h.2).bind fun _ => failsOnly_ok _

theorem failsOnly_milestonesAt (h : GoodFields good fields)
    (default : Table Number) : FailsOnly faulty (Config.milestonesAt fields default) := by
  unfold Config.milestonesAt
  cases named : fields.named? "progress_milestones" with
  | none => exact failsOnly_ok _
  | some d =>
    obtain ⟨field, mem, rfl⟩ := Fields.mem_of_named? named
    rw [Option.map_some]
    split
    · rename_i found kind
      have inner := tame.fields _ found (h field mem).2 (Option.some.inj kind)
      refine (tame.failsOnly_milestonesOf inner).bind fun values? => ?_
      cases values? <;> exact failsOnly_ok _
    · exact failsOnly_ok _

theorem failsOnly_config (h : GoodFields good fields) :
    FailsOnly faulty (Config.ofFields logs fields) :=
  Config.failsOnly_of_parts (tame.failsOnly_milestonesAt h) (tame.failsOnly_seedAt h)
    (tame.failsOnly_textAt h) fun key _ near => tame.failsOnly_doubleAt h key near

end Tame

/-! ## 3. One document -/

/-- Why the reading of a document is refused. -/
def Refuses (offence : Offence δ) (error : DocumentError) : Prop :=
  ∃ misshape, offence.misshape = .ok misshape ∧ error = .shape misshape

/-- How the reading of a document may fail. -/
def FailsBy (faulty : Fault → Prop) (error : DocumentError) : Prop :=
  ∃ fault, faulty fault ∧ error = .fault fault

/-- The reading of a document that is judged by its offences. -/
abbrev Judged {α : Type} (faulty : Fault → Prop) (offences : List (Offence δ))
    (read : Except DocumentError α) : Prop :=
  Settled Refuses (FailsBy faulty) offences read

variable {α β : Type} {offences more : List (Offence δ)}

/-- What is no matter of shape adds no offence. -/
theorem judged_orFault {read : Except Fault α} (h : FailsOnly faulty read) :
    Judged faulty ([] : List (Offence δ)) (orFault read) := by
  cases read with
  | error fault => exact .failed [] ⟨fault, h fault rfl, rfl⟩
  | ok a => exact .read a

theorem judged_orFault_bind {read : Except Fault α} {next : α → Except DocumentError β}
    (h : FailsOnly faulty read) (after : ∀ a, Judged faulty offences (next a)) :
    Judged faulty offences (orFault read >>= next) := by
  cases read with
  | error fault => exact .failed offences ⟨fault, h fault rfl, rfl⟩
  | ok a => exact after a

theorem judged_readUnless (h : ∀ offence ∈ offences, FailsOnly faulty offence.misshape) (a : α) :
    Judged faulty offences (readUnless offences a) := by
  cases offences with
  | nil => exact .read a
  | cons offence rest =>
    have first := h offence (List.mem_cons_self ..)
    unfold readUnless
    cases told : offence.misshape with
    | error fault =>
      refine .failed _ ⟨fault, first fault told, ?_⟩
      rw [Offence.refusal, told]
    | ok misshape => exact .refused rest ⟨misshape, told, refusal_of_misshape told⟩

theorem misshape_of_mappingOffences {offence other : Offence δ} {misshape : Misshape}
    (told : offence.misshape = .ok misshape) (mem : other ∈ mappingOffences offence d) :
    FailsOnly faulty other.misshape := by
  unfold mappingOffences at mem
  split at mem
  · contradiction
  · rw [List.mem_singleton.mp mem, told]
    exact failsOnly_ok misshape

theorem Tame.misshape_of_listOffences (tame : Tame good faulty) (h : good d) {part : String}
    {offence : Offence δ} (mem : offence ∈ listOffences part d) :
    FailsOnly faulty offence.misshape := by
  unfold listOffences at mem
  split at mem
  · contradiction
  · rename_i items kind
    obtain ⟨item, item_mem, rfl⟩ := List.mem_map.mp mem
    exact (tame.shown item (tame.items d items h kind item (List.mem_filter.mp item_mem).1)).map _
  · rw [List.mem_singleton.mp mem]
    exact failsOnly_ok _

theorem judged_ofDocument (d : δ) :
    Judged faulty (mappingOffences .document d) (Fields.ofDocument d) := by
  rw [ofDocument_eq]
  exact judged_readUnless (fun _ mem => misshape_of_mappingOffences rfl mem) _

theorem Tame.judged_entries (tame : Tame good faulty) (h : good d) (part : String) :
    Judged faulty ((part? part d).elim [] (listOffences part)) ((fieldsOf d).entries part) := by
  rw [entries_eq]
  refine judged_readUnless ?_ _
  cases named : part? part d with
  | none => exact List.forall_mem_nil _
  | some found => exact fun _ mem => tame.misshape_of_listOffences (tame.good_part h named) mem

/-- The entries of a section are those that the document has. -/
theorem entries_eq_map {part : String} {entries : List (Fields δ)}
    (read : (fieldsOf d).entries part = .ok entries) :
    entries = (entriesOf part d).map fieldsOf := by
  rw [entries_eq] at read
  exact (readUnless_ok_iff.mp read).2

theorem Tame.judged_readAll (tame : Tame good faulty) (h : good d) (part : String)
    {read : Fields δ → Except Fault α}
    (legible : ∀ fields, Legible faulty fields → FailsOnly faulty (read fields)) :
    Judged faulty ((part? part d).elim [] (listOffences part))
      (Draft.readAll (fieldsOf d) part read) := by
  unfold Draft.readAll
  rw [← List.append_nil ((part? part d).elim _ _)]
  refine (tame.judged_entries h part).bind fun entries done => judged_orFault ?_
  rw [entries_eq_map done]
  refine FailsOnly.mapM (List.forall_mem_map.mpr fun entry mem => ?_)
  exact legible _ (tame.legible (tame.good_entriesOf h entry mem))

theorem Tame.failsOnly_lines (tame : Tame good faulty) (h : good d) (draft : Draft)
    {entries : List (Fields δ)} (read : (fieldsOf d).entries "dialogues" = .ok entries) :
    FailsOnly faulty (entries.foldlM Draft.addLine draft) := by
  rw [entries_eq_map read]
  refine FailsOnly.foldlM (List.forall_mem_map.mpr fun entry mem => ?_) draft
  intro before
  refine ((tame.legible (tame.good_entriesOf h entry mem)).line _).bind fun _ => failsOnly_ok _

/-- **A data document is judged by its offences.** -/
theorem Tame.judged_addDocument (tame : Tame good faulty) (h : good d) (draft : Draft) :
    Judged faulty (dataOffences d) (draft.addDocument d) := by
  unfold Draft.addDocument dataOffences dataSections
  simp only [List.flatMap_cons]
  refine (judged_ofDocument d).bind fun fields read => ?_
  rw [ofDocument_eq] at read
  obtain rfl := (readUnless_ok_iff.mp read).2
  refine (tame.judged_readAll h "scenes" fun _ => Legible.scene).bind fun scenes _ => ?_
  refine (tame.judged_entries h "dialogues").bind fun entries entered => ?_
  refine judged_orFault_bind (tame.failsOnly_lines h draft entered) fun draft => ?_
  refine (tame.judged_readAll h "choices" fun _ => Legible.choice).bind fun choices _ => ?_
  refine (tame.judged_readAll h "characters" fun _ => Legible.character).bind fun characters _ => ?_
  refine (tame.judged_readAll h "variables" fun _ => Legible.variableDef).bind fun defs _ => ?_
  exact .read _

/-! ## 4. The manifest -/

/-- Everything can be told of a section that is no mapping. -/
theorem misshape_of_section (part : String) (d : δ) :
    ∀ offence ∈ (part? part d).elim [] (mappingOffences (.mapping part)),
      FailsOnly faulty offence.misshape := by
  cases part? part d with
  | none => exact List.forall_mem_nil _
  | some found => exact fun _ mem => misshape_of_mappingOffences rfl mem

/-- What must be a mapping is read unless it offends. -/
theorem judged_section (part : String) (d : δ) :
    Judged faulty ((part? part d).elim [] (mappingOffences (.mapping part)))
      ((fieldsOf d).section? part) := by
  rw [section?_eq]
  exact judged_readUnless (misshape_of_section part d) _

/-- A section of a manifest as it was read. -/
theorem Tame.good_section (tame : Tame good faulty) (h : good d) {part : String}
    (read : (fieldsOf d).section? part = .ok fields) : GoodFields good fields := by
  rw [section?_eq] at read
  rw [(readUnless_ok_iff.mp read).2]
  cases named : part? part d with
  | none => exact List.forall_mem_nil _
  | some found => exact tame.good_fieldsOf (tame.good_part h named)

/-- The manifest from the fields in which its contents stand. -/
def Manifest.ofStory (logs : Bool) (folder : Text) (story : Fields δ) :
    Except DocumentError Manifest := do
  let labels ← story.section? "scene_labels"
  let transitions ← story.section? "transition_text"
  let id ← orFault (story.content "id")
  return {
    id := if id.isEmpty then folder else id
    title := ← orFault (story.content "title")
    version := ← orFault (story.contentOr "version" "1.0.0")
    author := ← orFault (story.content "author")
    description := ← orFault (story.content "description")
    sceneLabels := ← orFault labels.texts
    transitionTexts := ← orFault transitions.texts
    config := ← orFault (Config.ofFields logs (← story.section? "engine")) }

theorem Manifest.ofDocument_eq (folder : Text) (d : δ) :
    Manifest.ofDocument logs folder d = Fields.ofDocument d >>= fun fields =>
      (fields.named? "story").elim (.ok fields) (Fields.ofSection "story") >>=
        Manifest.ofStory logs folder := by
  unfold Manifest.ofDocument Manifest.ofStory
  refine congrArg _ (funext fun fields => ?_)
  cases fields.named? "story" <;> rfl

/-- The contents of a manifest stand in its story part. -/
theorem story_eq (d : δ) :
    (part? "story" d).elim (.ok (fieldsOf d)) (Fields.ofSection "story") =
      readUnless ((part? "story" d).elim [] (mappingOffences (.mapping "story")))
        (fieldsOf (storyPart d)) := by
  unfold storyPart
  cases part? "story" d with
  | none => rfl
  | some found => exact ofSection_eq "story" found

theorem judged_story (d : δ) :
    Judged faulty ((part? "story" d).elim [] (mappingOffences (.mapping "story")))
      ((part? "story" d).elim (.ok (fieldsOf d)) (Fields.ofSection "story")) := by
  rw [story_eq]
  exact judged_readUnless (misshape_of_section "story" d) _

theorem Tame.judged_ofStory (tame : Tame good faulty) (h : good d) (folder : Text) :
    Judged faulty (storySections.flatMap fun part =>
      (part? part d).elim [] (mappingOffences (.mapping part)))
      (Manifest.ofStory logs folder (fieldsOf d)) := by
  have legible := tame.legible h
  unfold Manifest.ofStory storySections
  simp only [List.flatMap_cons]
  refine (judged_section "scene_labels" d).bind fun labels readLabels => ?_
  refine (judged_section "transition_text" d).bind fun transitions readTransitions => ?_
  refine judged_orFault_bind (legible.contentOr _ _) fun id => ?_
  refine judged_orFault_bind (legible.contentOr _ _) fun title => ?_
  refine judged_orFault_bind (legible.contentOr _ _) fun version => ?_
  refine judged_orFault_bind (legible.contentOr _ _) fun author => ?_
  refine judged_orFault_bind (legible.contentOr _ _) fun description => ?_
  have goodLabels := tame.good_section h readLabels
  have goodTransitions := tame.good_section h readTransitions
  refine judged_orFault_bind (tame.failsOnly_texts goodLabels) fun _ => ?_
  refine judged_orFault_bind (tame.failsOnly_texts goodTransitions) fun _ => ?_
  refine (judged_section "engine" d).bind fun engine readEngine => ?_
  refine judged_orFault_bind (tame.failsOnly_config (tame.good_section h readEngine)) fun _ => ?_
  exact .read _

/-- **A manifest is judged by its offences.** -/
theorem Tame.judged_manifest (tame : Tame good faulty) (h : good d) (folder : Text) :
    Judged faulty (manifestOffences d) (Manifest.ofDocument logs folder d) := by
  unfold manifestOffences
  rw [Manifest.ofDocument_eq, List.append_assoc]
  refine (judged_ofDocument d).bind fun fields read => ?_
  rw [ofDocument_eq] at read
  obtain rfl := (readUnless_ok_iff.mp read).2
  refine (judged_story d).bind fun story read => ?_
  rw [story_eq] at read
  obtain rfl := (readUnless_ok_iff.mp read).2
  refine tame.judged_ofStory ?_ folder
  unfold storyPart
  cases named : part? "story" d with
  | none => exact h
  | some found => exact tame.good_part h named

end

end Gamebook

/-
# The sections of documents

What a data document holds, and what is wrong with it, is said here of the document itself and not
of how it is read.

* **Entries.**  `entriesOf` are the entries of a section.  A section that is missing, null or of the
  wrong shape has none.
* **Offences.**  `dataOffences` and `manifestOffences` list all that has not the shape it must have,
  in the order of reading: the document, then section by section, and in a list entry by entry.
* **Reading.**  A section is read exactly if it is free of offences, and then as its entries
  (`entries_eq`); if it is not, the first offence ends the reading.
* **Faults.**  An entry whose fields can be read as text is read (`Legible`).
-/
import Gamebook.Proofs.Datum.Shown
import Gamebook.Story.Document

namespace Gamebook

/-! ## 1. What documents hold -/

section

variable {δ : Type} [Layered δ]

namespace Layered

/-- Whether a part of a document is a mapping. -/
def isMapping (d : δ) : Bool :=
  match layer d with
  | .map _ => true
  | _ => false

/-- Whether a part of a document is null. -/
def isNull (d : δ) : Bool :=
  match layer d with
  | .atom .null => true
  | _ => false

/-- The fields of a mapping; what is no mapping has none. -/
def fieldsOf (d : δ) : Fields δ :=
  match layer d with
  | .map fields => fields
  | _ => []

/-- The items of a list; what is no list has none. -/
def itemsOf (d : δ) : List δ :=
  match layer d with
  | .list items => items
  | _ => []

/-- The part of a document that has a name. -/
def part? (name : String) (d : δ) : Option δ := (fieldsOf d).named? name

/-- The entries of a section of a data document. -/
def entriesOf (part : String) (d : δ) : List δ := (part? part d).elim [] itemsOf

end Layered

open Layered

/-- The sections of a data document, in the order in which they are read. -/
def dataSections : List String := ["scenes", "dialogues", "choices", "characters", "variables"]

/-- The sections of a manifest that stand in its story. -/
def storySections : List String := ["scene_labels", "transition_text", "engine"]

/-! ## 2. Offences -/

/-- Something that has not the shape it must have. -/
inductive Offence (δ : Type) where
  /-- The document is no mapping. -/
  | document
  /-- A section of the manifest is no mapping. -/
  | mapping (part : String)
  /-- A section of a data document is no list. -/
  | list (part : String)
  /-- An entry of a list is no mapping. -/
  | entry (part : String) (found : δ)

/-- What is told of an offence: of an entry, as messages show it. -/
def Offence.misshape : Offence δ → Except Fault Misshape
  | .document => .ok .document
  | .mapping part => .ok (.mapping part)
  | .list part => .ok (.list part)
  | .entry part found => (shown found).map (.entry part)

/-- What must be a mapping or null. -/
def mappingOffences (offence : Offence δ) (d : δ) : List (Offence δ) :=
  if isMapping d || isNull d then [] else [offence]

/-- What must be a list of mappings or null. -/
def listOffences (part : String) (d : δ) : List (Offence δ) :=
  match layer d with
  | .atom .null => []
  | .list items => (items.filter fun item => !isMapping item).map (.entry part)
  | _ => [.list part]

/-- **The offences of a data document.** -/
def dataOffences (d : δ) : List (Offence δ) :=
  mappingOffences .document d ++
    dataSections.flatMap fun part => (part? part d).elim [] (listOffences part)

/-- What the contents of a manifest stand in: its section `story` or, without one, the manifest
itself. -/
def storyPart (d : δ) : δ := (part? "story" d).getD d

/-- **The offences of a manifest.** -/
def manifestOffences (d : δ) : List (Offence δ) :=
  mappingOffences .document d ++
    (part? "story" d).elim [] (mappingOffences (.mapping "story")) ++
    storySections.flatMap fun part =>
      (part? part (storyPart d)).elim [] (mappingOffences (.mapping part))

/-! ## 3. Reading sections -/

/-- What ends the reading of a document that has an offence. -/
def Offence.refusal (offence : Offence δ) : DocumentError :=
  match offence.misshape with
  | .ok misshape => .shape misshape
  | .error fault => .fault fault

/-- A reading that the first offence ends. -/
def readUnless {α : Type} (offences : List (Offence δ)) (read : α) : Except DocumentError α :=
  match offences with
  | [] => .ok read
  | offence :: _ => .error offence.refusal

theorem readUnless_ok_iff {α : Type} {offences : List (Offence δ)} {read a : α} :
    readUnless offences read = .ok a ↔ offences = [] ∧ a = read := by
  cases offences <;> simp [readUnless, eq_comm]

theorem fieldsOf_of_layer {d : δ} {fields : Fields δ} (h : layer d = .map fields) :
    isMapping d = true ∧ fieldsOf d = fields := by
  simp [isMapping, fieldsOf, h]

theorem isMapping_eq_false {d : δ} (h : ∀ fields, layer d ≠ .map fields) : isMapping d = false := by
  unfold isMapping
  split
  · exact absurd ‹_› (h _)
  · rfl

theorem isNull_eq_false {d : δ} (h : layer d ≠ .atom .null) : isNull d = false := by
  unfold isNull
  split
  · contradiction
  · rfl

theorem refusal_of_misshape {offence : Offence δ} {misshape : Misshape}
    (told : offence.misshape = .ok misshape) : offence.refusal = .shape misshape := by
  unfold Offence.refusal
  rw [told]

/-- What reads mappings, and null as the empty one, reads all that does not offend. -/
theorem eq_readUnless {offence : Offence δ} {misshape : Misshape} {d : δ}
    {read : Except DocumentError (Fields δ)} (told : offence.misshape = .ok misshape)
    (null : layer d = .atom .null → read = .ok [])
    (mapping : ∀ fields, layer d = .map fields → read = .ok fields)
    (other : layer d ≠ .atom .null → (∀ fields, layer d ≠ .map fields) →
      read = .error (.shape misshape)) :
    read = readUnless (mappingOffences offence d) (fieldsOf d) := by
  by_cases isNull' : layer d = .atom .null
  · rw [null isNull']
    simp [mappingOffences, isNull, fieldsOf, isNull', readUnless]
  · by_cases isMapping' : ∃ fields, layer d = .map fields
    · obtain ⟨fields, found⟩ := isMapping'
      rw [mapping fields found]
      obtain ⟨isMapping, fieldsOf⟩ := fieldsOf_of_layer found
      simp [mappingOffences, isMapping, fieldsOf, readUnless]
    · rw [not_exists] at isMapping'
      rw [other isNull' isMapping']
      simp [mappingOffences, isMapping_eq_false isMapping', isNull_eq_false isNull', readUnless,
        refusal_of_misshape told]

theorem ofDocument_eq (d : δ) :
    Fields.ofDocument d = readUnless (mappingOffences .document d) (fieldsOf d) := by
  unfold Fields.ofDocument
  refine eq_readUnless rfl ?_ ?_ ?_
  · intro null
    rw [null]
  · intro fields mapping
    rw [mapping]
  · intro null mapping
    split
    · contradiction
    · exact absurd ‹_› (mapping _)
    · rfl

theorem ofSection_eq (part : String) (d : δ) :
    Fields.ofSection part d = readUnless (mappingOffences (.mapping part) d) (fieldsOf d) := by
  unfold Fields.ofSection
  refine eq_readUnless rfl ?_ ?_ ?_
  · intro null
    rw [null]
  · intro fields mapping
    rw [mapping]
  · intro null mapping
    split
    · contradiction
    · exact absurd ‹_› (mapping _)
    · rfl

/-- A section of a manifest is read unless it offends. -/
theorem section?_eq (part : String) (d : δ) :
    (fieldsOf d).section? part =
      readUnless ((part? part d).elim [] (mappingOffences (.mapping part)))
        ((part? part d).elim [] fieldsOf) := by
  unfold Fields.section? part?
  cases (fieldsOf d).named? part with
  | none => rfl
  | some found => exact ofSection_eq part found

/-- The entries of a list are read up to the first that is no mapping. -/
theorem mapM_ofEntry_eq (part : String) (items : List δ) :
    items.mapM (Fields.ofEntry part) =
      readUnless ((items.filter fun item => !isMapping item).map (.entry part))
        (items.map fieldsOf) := by
  induction items with
  | nil => rfl
  | cons item rest ih =>
    rw [List.mapM_cons, ih]
    by_cases mapping : ∃ fields, layer item = .map fields
    · obtain ⟨fields, mapping⟩ := mapping
      obtain ⟨isMapping, fieldsOf⟩ := fieldsOf_of_layer mapping
      have first : Fields.ofEntry part item = .ok fields := by
        unfold Fields.ofEntry
        rw [mapping]
      rw [first, List.filter_cons_of_neg (by simp [isMapping]), List.map_cons, fieldsOf]
      generalize (rest.filter _).map _ = offences
      cases offences <;> rfl
    · rw [not_exists] at mapping
      have first : Fields.ofEntry part item = .error (Offence.entry part item).refusal := by
        unfold Fields.ofEntry
        split
        · exact absurd ‹_› (mapping _)
        · unfold Offence.refusal
          simp only [Offence.misshape]
          cases shown item <;> rfl
      rw [first, List.filter_cons_of_pos (by simp [isMapping_eq_false mapping])]
      rfl

/-- **A section of a data document is read unless it offends.** -/
theorem entries_eq (part : String) (d : δ) :
    (fieldsOf d).entries part =
      readUnless ((part? part d).elim [] (listOffences part))
        ((entriesOf part d).map fieldsOf) := by
  unfold Fields.entries entriesOf part?
  cases (fieldsOf d).named? part with
  | none => rfl
  | some found =>
    simp only [Option.map_some, Option.elim_some, listOffences, itemsOf]
    cases kind : layer found with
    | list items => exact mapM_ofEntry_eq part items
    | atom a => cases a <;> rfl
    | map fields => rfl
    | other => rfl

/-! ## 4. Reading entries -/

section

variable {faulty : Fault → Prop} {fields : Fields δ}

/-- Fields whose contents are read without other faults. -/
def Legible (faulty : Fault → Prop) (fields : Fields δ) : Prop :=
  ∀ field ∈ fields, FailsOnly faulty (content field.2)

theorem Legible.contentOr (h : Legible faulty fields) (name missing : Text) :
    FailsOnly faulty (fields.contentOr name missing) := by
  unfold Fields.contentOr
  cases named : fields.named? name with
  | none => exact failsOnly_ok missing
  | some d =>
    obtain ⟨field, mem, rfl⟩ := Fields.mem_of_named? named
    exact h field mem

theorem Legible.scene (h : Legible faulty fields) : FailsOnly faulty fields.scene := by
  unfold Fields.scene
  refine (h.contentOr _ _).bind fun _ => ?_
  refine (h.contentOr _ _).bind fun _ => ?_
  refine (h.contentOr _ _).bind fun _ => ?_
  exact (h.contentOr _ _).bind fun _ => failsOnly_ok _

theorem Legible.line (h : Legible faulty fields) (id : Int) :
    FailsOnly faulty (fields.line id) := by
  unfold Fields.line
  refine (h.contentOr _ _).bind fun _ => ?_
  refine (h.contentOr _ _).bind fun _ => ?_
  refine (h.contentOr _ _).bind fun _ => ?_
  exact (h.contentOr _ _).bind fun _ => failsOnly_ok _

theorem Legible.choice (h : Legible faulty fields) : FailsOnly faulty fields.choice := by
  unfold Fields.choice
  refine (h.contentOr _ _).bind fun _ => ?_
  refine (h.contentOr _ _).bind fun _ => ?_
  refine (h.contentOr _ _).bind fun _ => ?_
  refine (h.contentOr _ _).bind fun _ => ?_
  refine (h.contentOr _ _).bind fun _ => ?_
  exact (h.contentOr _ _).bind fun _ => failsOnly_ok _

theorem Legible.character (h : Legible faulty fields) : FailsOnly faulty fields.character := by
  unfold Fields.character
  refine (h.contentOr _ _).bind fun _ => ?_
  refine (h.contentOr _ _).bind fun _ => ?_
  refine (h.contentOr _ _).bind fun _ => ?_
  exact (h.contentOr _ _).bind fun _ => failsOnly_ok _

theorem Legible.variableDef (h : Legible faulty fields) : FailsOnly faulty fields.variableDef := by
  unfold Fields.variableDef
  refine (h.contentOr _ _).bind fun _ => ?_
  refine (h.contentOr _ _).bind fun _ => ?_
  exact (h.contentOr _ _).bind fun _ => failsOnly_ok _

end

end

end Gamebook

/-
# Which documents are rejected, and what for

A story is loaded unless one of its documents has an offence.  Then it is rejected for the first
offence in the order of reading, the manifest before the data documents, and the file of that
document is to blame (`verdict_load`).  This holds of all documents whose integers have doubles near
them.

One thing may come between: to reject an entry of a list is to show it, and an entry that is nested
too deeply cannot be shown.  In a text lists and mappings are nested only so deeply, but names for
parts of it make them as deep as one likes.  `breaksOff_at_nestedScene` has such an entry: its
document has an offence, and is not rejected for it.
-/
import Gamebook.Proofs.Story.Gathering
import Gamebook.Proofs.Story.Judgments

namespace Gamebook

open Layered

/-! ## 1. Folders -/

namespace Bundle

section

variable {δ : Type} [Layered δ]

/-- All documents of a folder. -/
def all (bundle : Bundle δ) : List δ := bundle.manifest?.toList ++ bundle.contents

/-- **The offences of all documents of a folder**, with the paths of the documents: first those of
the manifest. -/
def offences (bundle : Bundle δ) (folder : Path) : List (Path × Offence δ) :=
  bundle.manifest?.elim [] (fun d => (manifestOffences d).map (manifestPath folder, ·)) ++
    bundle.documents.flatMap fun entry => (dataOffences entry.2).map (entry.1, ·)

end

end Bundle

namespace Story

variable {α δ : Type} [Layered δ] {decoder : Decoder α δ} {tree : FileTree α} {folder : Path}
  {bundle : Bundle δ} {good : δ → Prop} {faulty : Fault → Prop}

/-- What the loading of a story is refused for: the file is to blame. -/
def Blames (offence : Path × Offence δ) (failure : LoadFailure) : Prop :=
  ∃ misshape, offence.2.misshape = .ok misshape ∧ failure = .content (.shape offence.1 misshape)

/-- How the loading of a story may break off. -/
def BreaksOff (faulty : Fault → Prop) (failure : LoadFailure) : Prop :=
  ∃ fault, faulty fault ∧ failure = .fault fault

/-- What is judged of a document is told of its file. -/
theorem settled_of_judged {β : Type} {offences : List (Offence δ)} {read : Except DocumentError β}
    (file : Path) (h : Judged faulty offences read) :
    Settled Blames (BreaksOff faulty) (offences.map (file, ·)) (read.mapError (failure file)) := by
  refine h.mapError ?_ ?_
  · rintro offence _ ⟨misshape, told, rfl⟩
    exact ⟨misshape, told, rfl⟩
  · rintro _ ⟨fault, faulty, rfl⟩
    exact ⟨fault, faulty, rfl⟩

/-- **Data documents are judged one after another**, by induction along them. -/
theorem settled_addFiles (tame : Tame good faulty) {documents : List (Path × δ)} (draft : Draft)
    (decoded : ∀ entry ∈ documents, document decoder tree entry.1 = .ok entry.2)
    (known : ∀ entry ∈ documents, good entry.2) :
    Settled Blames (BreaksOff faulty)
      (documents.flatMap fun entry => (dataOffences entry.2).map (entry.1, ·))
      (addFiles decoder tree draft (documents.map Prod.fst)) := by
  induction documents generalizing draft with
  | nil => exact .read draft
  | cons entry rest ih =>
    rw [List.forall_mem_cons] at decoded known
    rw [List.map_cons, addFiles_cons decoded.1, List.flatMap_cons]
    refine (settled_of_judged entry.1 (tame.judged_addDocument known.1 draft)).bind ?_
    exact fun next _ => ih next decoded.2 known.2

/-- **The loading of a story is judged by the offences of its documents.** -/
theorem settled_load (tame : Tame good faulty) (logs : Bool)
    (lies : bundle.LiesIn decoder tree folder) (known : ∀ d ∈ bundle.all, good d) :
    Settled Blames (BreaksOff faulty) (bundle.offences folder) (load logs decoder tree folder) := by
  rw [Bundle.all, List.forall_mem_append] at known
  have first : Settled Blames (BreaksOff faulty)
      (bundle.manifest?.elim [] fun d => (manifestOffences d).map (Bundle.manifestPath folder, ·))
      (manifest logs decoder tree folder) := by
    rw [manifest_eq lies, Bundle.manifest]
    cases given : bundle.manifest? with
    | none => exact .read _
    | some d =>
      have good := known.1 d (by rw [given]; exact List.mem_singleton_self d)
      exact settled_of_judged _ (tame.judged_manifest good folder.name)
  unfold load
  rw [lies.isFolder, Bundle.offences]
  refine first.bind fun info _ => ?_
  rw [lies.paths, ← List.append_nil (bundle.documents.flatMap _)]
  refine Settled.bind (settled_addFiles tame {} lies.decoded ?_) fun draft _ => .read _
  exact fun entry mem => known.2 _ (List.mem_map_of_mem mem)

end Story

/-! ## 2. Documents that are written down -/

namespace Yaml.Place

variable {p : Place} {documents : List Place}

theorem part_of_layer_atom {a : Atom} (h : layer p = .atom a) : p.part = .atom a := by
  simp only [layer] at h
  split at h <;> simp_all

theorem exists_of_layer_list {items : List Place} (h : layer p = .list items) :
    ∃ places, p.part = .list places ∧ items = places.map p.toIndex := by
  simp only [layer] at h
  split at h <;> simp_all

theorem exists_of_layer_map {fields : Fields Place} (h : layer p = .map fields) :
    ∃ entries, p.part = .map entries ∧
      fields = entries.map fun entry => (entry.1, p.toIndex entry.2) := by
  simp only [layer] at h
  split at h <;> simp_all

/-- The parts of some documents are read without faults, but for those that are nested too
deeply. -/
theorem tame (fits : ∀ d ∈ documents, d.Fits) :
    Tame (fun p : Place => ∃ d ∈ documents, p.parts = d.parts)
      (fun fault => fault = .tooDeep ∧ ∃ d ∈ documents, d.Deep) where
  atom := by
    rintro p a ⟨d, mem, same⟩ kind
    have known := (fits d mem).part p.index
    rw [← same] at known
    rw [show p.parts.getD p.index default = .atom a from part_of_layer_atom kind] at known
    exact known a (List.mem_singleton_self a)
  items := by
    rintro p items ⟨d, mem, same⟩ kind
    obtain ⟨places, -, rfl⟩ := exists_of_layer_list kind
    exact List.forall_mem_map.mpr fun _ _ => ⟨d, mem, same⟩
  fields := by
    rintro p fields ⟨d, mem, same⟩ kind
    obtain ⟨entries, part, rfl⟩ := exists_of_layer_map kind
    have known := (fits d mem).part p.index
    rw [← same] at known
    rw [show p.parts.getD p.index default = .map entries from part] at known
    exact List.forall_mem_map.mpr fun entry entry_mem =>
      ⟨known entry.1 (List.mem_map_of_mem entry_mem), d, mem, same⟩
  shown := by
    rintro p ⟨d, mem, same⟩ fault failed
    have fits : p.Fits := by
      unfold Fits
      rw [same]
      exact fits d mem
    obtain rfl := failsOnly_shown fits fault failed
    refine ⟨rfl, d, mem, p.index, ?_⟩
    rw [← failed]
    unfold toIndex
    rw [← same]

end Yaml.Place

/-- **What the loading of a folder comes to.** -/
structure Bundle.Verdict (bundle : Bundle Yaml.Place) (folder : Path)
    (result : Except LoadFailure (Story × Manifest)) : Prop where
  /-- If a document is rejected, then the first that has an offence, for its first offence. -/
  blames : ∀ error, result = .error (.content error) →
    ∃ file offence rest misshape, bundle.offences folder = (file, offence) :: rest ∧
      offence.misshape = .ok misshape ∧ error = .shape file misshape
  /-- A story that is loaded has no offence, and every entry is in it. -/
  gathers : ∀ story info, result = .ok (story, info) →
    bundle.offences folder = [] ∧ story.Gathers 1 bundle.contents
  /-- There is no other end, except that a part is nested too deeply to be shown. -/
  breaksOff : ∀ fault, result = .error (.fault fault) →
    fault = .tooDeep ∧ ∃ d ∈ bundle.all, d.Deep
  /-- Where nothing is, every offence has the documents rejected. -/
  rejects : (∀ d ∈ bundle.all, ¬ d.Deep) →
    ((∃ error, result = .error (.content error)) ↔ bundle.offences folder ≠ [])

/-- **Exactly the documents of a wrong shape are rejected, and the right file is to blame.** -/
theorem verdict_load {α : Type} {decoder : Decoder α Yaml.Place} {tree : FileTree α} {folder : Path}
    {bundle : Bundle Yaml.Place} (logs : Bool) (lies : bundle.LiesIn decoder tree folder)
    (fits : ∀ d ∈ bundle.all, d.Fits) :
    bundle.Verdict folder (Story.load logs decoder tree folder) := by
  have settled := Story.settled_load (Yaml.Place.tame fits) logs lies fun d mem => ⟨d, mem, rfl⟩
  have refused : ∀ error, Story.load logs decoder tree folder = .error (.content error) →
      ∃ file offence rest misshape, bundle.offences folder = (file, offence) :: rest ∧
        offence.misshape = .ok misshape ∧ error = .shape file misshape := by
    intro error failed
    rw [failed] at settled
    rcases settled.of_error with
      ⟨fault, -, told⟩ | ⟨⟨file, offence⟩, rest, first, misshape, told, same⟩
    · contradiction
    · exact ⟨file, offence, rest, misshape, first, told, LoadFailure.content.inj same⟩
  have broken : ∀ fault, Story.load logs decoder tree folder = .error (.fault fault) →
      fault = .tooDeep ∧ ∃ d ∈ bundle.all, d.Deep := by
    intro fault failed
    rw [failed] at settled
    rcases settled.of_error with ⟨other, deep, same⟩ | ⟨_, rest, -, misshape, -, same⟩
    · rw [LoadFailure.fault.inj same]
      exact deep
    · contradiction
  refine ⟨refused, ?_, broken, ?_⟩
  · intro story info loaded
    refine ⟨?_, ((Story.load_ok_iff lies).mp loaded).2.2⟩
    rw [loaded] at settled
    exact settled.eq_nil
  · intro shallow
    constructor
    · rintro ⟨error, failed⟩ free
      obtain ⟨file, offence, rest, misshape, first, -⟩ := refused error failed
      rw [free] at first
      contradiction
    · intro offends
      cases result : Story.load logs decoder tree folder with
      | ok loaded =>
        rw [result] at settled
        exact absurd settled.eq_nil offends
      | error failure =>
        cases failure with
        | content error => exact ⟨error, rfl⟩
        | fault fault =>
          obtain ⟨-, d, mem, deep⟩ := broken fault result
          exact absurd deep (shallow d mem)

/-- A manifest with the id of a tale. -/
def namedTale : Yaml.Place :=
  ⟨#[.map [(.text "story", 1)], .map [(.text "id", 2)], .atom (.text "tale")], 0⟩

/-- A data document with an entry that is a text, and a section that is one. -/
def reef : Yaml.Place :=
  ⟨#[.map [(.text "choices", 3), (.text "scenes", 1)], .list [2, 3], .map [], .atom (.text "reef")],
    0⟩

/-- Of the reef its second scene is rejected, since scenes come first. -/
theorem verdict_at_reef :
    let tale := Tale.bundle (some namedTale) [("a.yaml", reef)]
    let tree := Tale.tree (some namedTale) [("a.yaml", reef)]
    tale.LiesIn .ok tree Tale.folder ∧ (∀ d ∈ tale.all, d.Fits) ∧
      Story.load true .ok tree Tale.folder = .error (.content
        (.shape ((Tale.folder.child "data").child "a.yaml") (.entry "scenes" "'reef'"))) := by
  intro tale tree
  have lies : tale.LiesIn .ok tree Tale.folder :=
    Tale.liesIn rfl nofun (fun _ same => Option.some.inj same ▸ rfl) rfl (by decide +kernel)
      (by decide +kernel) (by decide +kernel) (List.forall_mem_singleton.mpr rfl)
  have fits : ∀ d ∈ tale.all, d.Fits := by
    refine List.forall_mem_cons.mpr ⟨?_, List.forall_mem_singleton.mpr ?_⟩
    · simp [Yaml.Place.Fits, namedTale, Yaml.Part.atoms, Atom.Fits]
    · simp [Yaml.Place.Fits, reef, Yaml.Part.atoms, Atom.Fits]
  have shallow : ∀ d ∈ tale.all, ¬ d.Deep := by
    refine List.forall_mem_cons.mpr ⟨?_, List.forall_mem_singleton.mpr ?_⟩
    · exact Yaml.Place.not_deep_of_all (by decide +kernel)
    · exact Yaml.Place.not_deep_of_all (by decide +kernel)
  have verdict := verdict_load true lies fits
  have first : tale.offences Tale.folder = [((Tale.folder.child "data").child "a.yaml",
      .entry "scenes" (reef.toIndex 3)), ((Tale.folder.child "data").child "a.yaml",
      .list "choices")] := rfl
  obtain ⟨error, failed⟩ := (verdict.rejects shallow).mpr (by rw [first]; nofun)
  obtain ⟨file, offence, rest, misshape, same, told, rfl⟩ := verdict.blames error failed
  rw [first] at same
  obtain ⟨heads, -⟩ := List.cons.inj same
  obtain ⟨rfl, rfl⟩ := Prod.mk.inj heads
  have shown : (Offence.entry "scenes" (reef.toIndex 3)).misshape =
      .ok (.entry "scenes" "'reef'") := by decide +kernel
  rw [Except.ok.inj (told.symm.trans shown)] at failed
  exact ⟨lies, fits, failed⟩

/-! ## 3. Entries that are nested too deeply -/

/-- A data document whose only scene is a chain of lists, each in the one before. -/
def nestedScene (size : Nat) : Yaml.Place where
  parts := Array.ofFn fun k : Fin size =>
    if k.val = 0 then .map [(.text "scenes", 1)] else .list [k.val + 1]
  index := 0

theorem parts_nestedScene {size k : Nat} (inside : k < size) :
    (nestedScene size).parts.getD k default =
      if k = 0 then .map [(.text "scenes", 1)] else .list [k + 1] := by
  unfold nestedScene Array.getD
  rw [dif_pos (by simpa using inside)]
  simp

theorem fits_nestedScene (size : Nat) : (nestedScene size).Fits := by
  intro part mem
  obtain ⟨k, rfl⟩ := Array.mem_ofFn.mp mem
  split <;> simp [Yaml.Part.atoms, Atom.Fits]

/-- Its only offence: the scene. -/
theorem dataOffences_nestedScene {size : Nat} (more : 2 < size) :
    dataOffences (nestedScene size) = [.entry "scenes" ((nestedScene size).toIndex 2)] := by
  have root : layer (nestedScene size) =
      .map [(.text "scenes", (nestedScene size).toIndex 1)] := by
    have part : (nestedScene size).part = .map [(.text "scenes", 1)] :=
      parts_nestedScene (k := 0) (by omega)
    simp only [layer, part]
    rfl
  have list (k : Nat) (inside : k + 1 < size) : layer ((nestedScene size).toIndex (k + 1)) =
      .list [(nestedScene size).toIndex (k + 2)] := by
    have part : ((nestedScene size).toIndex (k + 1)).part = .list [k + 2] :=
      (parts_nestedScene inside).trans (if_neg (Nat.succ_ne_zero k))
    simp only [layer, part]
    rfl
  have scenes : listOffences "scenes" ((nestedScene size).toIndex 1) =
      [.entry "scenes" ((nestedScene size).toIndex 2)] := by
    simp [listOffences, isMapping, list 0 (by omega), list 1 (by omega)]
  obtain ⟨mapping, fields⟩ := fieldsOf_of_layer root
  unfold dataOffences part?
  rw [fields, ← scenes, mappingOffences, mapping]
  exact List.append_nil _

theorem shown_nestedScene {size : Nat} (long : 990 ≤ size) :
    shown ((nestedScene size).toIndex 2) = .error .tooDeep := by
  refine Yaml.Part.shownWithin_of_chain ?_ (List.forall_mem_nil _)
  intro step within
  have inside : step < 988 := within
  exact (parts_nestedScene (k := 2 + step) (by omega)).trans (if_neg (by omega))

/-- **An entry that is no mapping, and whose document is not rejected for it.** -/
theorem breaksOff_at_nestedScene :
    let tale := Tale.bundle none [("a.yaml", nestedScene 1000)]
    let tree := Tale.tree none [("a.yaml", nestedScene 1000)]
    tale.LiesIn .ok tree Tale.folder ∧ (∀ d ∈ tale.all, d.Fits) ∧ tale.offences Tale.folder ≠ [] ∧
      Story.load true .ok tree Tale.folder = .error (.fault .tooDeep) := by
  intro tale tree
  have lies : tale.LiesIn .ok tree Tale.folder :=
    Tale.liesIn rfl (fun _ => rfl) (fun _ given => by cases given) rfl (by decide +kernel)
      (by decide +kernel) (by decide +kernel) (List.forall_mem_singleton.mpr rfl)
  have fits : ∀ d ∈ tale.all, d.Fits := List.forall_mem_singleton.mpr (fits_nestedScene 1000)
  have offences : tale.offences Tale.folder = [((Tale.folder.child "data").child "a.yaml",
      .entry "scenes" ((nestedScene 1000).toIndex 2))] := by
    simp [tale, Bundle.offences, Tale.bundle, dataOffences_nestedScene]
  refine ⟨lies, fits, by rw [offences]; exact List.cons_ne_nil _ _, ?_⟩
  have settled := Story.settled_load (Yaml.Place.tame fits) true lies fun d mem => ⟨d, mem, rfl⟩
  rw [offences] at settled
  cases result : Story.load true .ok tree Tale.folder with
  | ok loaded =>
    rw [result] at settled
    exact absurd settled.eq_nil (List.cons_ne_nil _ _)
  | error failure =>
    rw [result] at settled
    rcases settled.of_error with ⟨fault, ⟨rfl, -⟩, rfl⟩ | ⟨_, rest, same, misshape, told, -⟩
    · rfl
    · obtain ⟨rfl, -⟩ := List.cons.inj same
      have failed : (Offence.entry "scenes" ((nestedScene 1000).toIndex 2)).misshape =
          .error .tooDeep := by
        rw [Offence.misshape, shown_nestedScene (by decide)]
        rfl
      rw [failed] at told
      cases told

end Gamebook

/-
# How documents are shown

A part of a document is shown together with the parts that belong to it, and that has two limits:
an integer may have too many digits, and the parts may be nested too deeply.  Integers that have a
double near them are far from the first limit; in documents whose integers have, only the second one
is ever met (`Place.failsOnly_shown`).

There is no bound on how deeply the parts of a document may be nested: `shownWithin_of_chain` shows
a chain of lists that is too long.
-/
import Gamebook.Proofs.Fault
import Gamebook.Proofs.Number.Arithmetic
import Gamebook.Yaml.Part

namespace Gamebook

/-! ## 1. Atoms -/

namespace Atom

variable {a : Atom} {faulty : Fault → Prop}

/-- An atom that is no integer beyond the finite doubles. -/
def Fits : Atom → Prop
  | .number n => ¬ n.Beyond
  | _ => True

theorem Fits.shown (h : a.Fits) : FailsOnly faulty a.shown := by
  cases a with
  | number n =>
    have short : n.isOverlong = false := by
      cases n with
      | int n => exact Number.not_overlong_of_not_beyond h
      | double x => rfl
    unfold Atom.shown
    simp only [short]
    exact failsOnly_ok _
  | null | bool | text | date | moment | bytes => exact failsOnly_ok _

theorem Fits.plain (h : a.Fits) : FailsOnly faulty a.plain := by
  cases a with
  | text | date | moment => exact failsOnly_ok _
  | null | bool | number | bytes => exact h.shown.map _

theorem Fits.content (h : a.Fits) : FailsOnly faulty a.content := by
  cases a with
  | null | bool => exact failsOnly_ok _
  | number | text | date | moment | bytes => exact h.plain

end Atom

/-! ## 2. Parts -/

namespace Yaml

/-- The atoms in a part, and among the keys of it. -/
def Part.atoms : Part → List Atom
  | .atom a => [a]
  | .list _ | .pair .. => []
  | .set members => members
  | .map fields => fields.map Prod.fst

namespace Place

/-- A document all of whose integers have a double near them. -/
def Fits (p : Place) : Prop := ∀ part ∈ p.parts, ∀ a ∈ part.atoms, a.Fits

/-- A document with a part that is nested too deeply to be shown. -/
def Deep (p : Place) : Prop := ∃ index, Layered.shown (p.toIndex index) = .error .tooDeep

variable {p : Place}

theorem Fits.part (h : p.Fits) (place : Nat) :
    ∀ a ∈ (p.parts.getD place default).atoms, a.Fits := by
  unfold Array.getD
  split
  · rename_i inside
    exact h _ (Array.getElem_mem inside)
  · intro a mem
    rw [List.mem_singleton.mp mem]
    trivial

end Place

namespace Part

variable {p : Place}

/-- **Only depth keeps parts from being shown**, by induction on the depth that is left. -/
theorem failsOnly_shownWithin (fits : p.Fits) (depth : Nat) (around : List Nat) (place : Nat) :
    FailsOnly (· = .tooDeep) (shownWithin p.parts depth around place) := by
  induction depth generalizing around place with
  | zero =>
    intro fault failed
    exact (Except.error.inj failed).symm
  | succ depth ih =>
    have known := fits.part place
    unfold shownWithin
    simp only
    generalize p.parts.getD place default = part at known
    cases part with
    | atom a => exact (known a (List.mem_singleton_self a)).shown
    | set members =>
      cases members with
      | nil => exact failsOnly_ok _
      | cons first rest =>
        exact (FailsOnly.mapM fun member mem => (known member mem).shown).map _
    | list items =>
      simp only
      split
      · exact failsOnly_ok _
      · exact (FailsOnly.mapM fun item _ => ih (place :: around) item).map _
    | pair first second =>
      simp only
      split
      · exact failsOnly_ok _
      · refine (ih _ first).bind fun _ => ?_
        exact (ih _ second).bind fun _ => failsOnly_ok _
    | map fields =>
      simp only
      split
      · exact failsOnly_ok _
      · refine (FailsOnly.mapM fun entry mem => ?_).map _
        refine (known entry.1 (List.mem_map_of_mem mem)).shown.bind fun _ => ?_
        exact (ih _ entry.2).bind fun _ => failsOnly_ok _

/-- A chain of lists, each the only item of the one before, is not shown to its end if it is longer
than the depth. -/
theorem shownWithin_of_chain {parts : Array Part} {depth place : Nat} {around : List Nat}
    (chain : ∀ step < depth, parts.getD (place + step) default = .list [place + step + 1])
    (outside : ∀ other ∈ around, other < place) :
    shownWithin parts depth around place = .error .tooDeep := by
  induction depth generalizing place around with
  | zero => rfl
  | succ depth ih =>
    have first : parts.getD place default = .list [place + 1] := chain 0 (Nat.zero_lt_succ depth)
    have new : around.contains place = false := by
      rw [List.contains_eq_mem, decide_eq_false_iff_not]
      intro mem
      exact Nat.lt_irrefl place (outside place mem)
    have inner : shownWithin parts depth (place :: around) (place + 1) = .error .tooDeep := by
      refine ih ?_ ?_
      · intro step within
        have next := chain (step + 1) (Nat.succ_lt_succ within)
        rw [show place + (step + 1) = place + 1 + step by omega] at next
        exact next
      · intro other mem
        rcases List.mem_cons.mp mem with rfl | mem
        · exact Nat.lt_succ_self _
        · exact Nat.lt_succ_of_lt (outside other mem)
    unfold shownWithin
    simp only [first, new, List.mapM_cons, inner]
    rfl

end Part

namespace Place

variable {p : Place}

theorem failsOnly_shown (fits : p.Fits) : FailsOnly (· = .tooDeep) (Layered.shown p) :=
  Part.failsOnly_shownWithin fits _ _ _

/-- A document is not deep if each of its parts can be shown; places outside of it are null. -/
theorem not_deep_of_all
    (all : ((List.range p.parts.size).all fun index =>
      (Layered.shown (p.toIndex index)).toBool) = true) : ¬ p.Deep := by
  rintro ⟨index, deep⟩
  by_cases inside : index < p.parts.size
  · have told := List.all_eq_true.mp all index (List.mem_range.mpr inside)
    rw [deep] at told
    cases told
  · have null : p.parts.getD index default = .atom .null := by
      unfold Array.getD
      rw [dif_neg inside]
      rfl
    have told : Part.shownWithin p.parts shownLimit [] index = .ok "None" := by
      unfold shownLimit Part.shownWithin
      simp only [null]
      rfl
    exact absurd (told.symm.trans deep) nofun

end Place
end Yaml
end Gamebook

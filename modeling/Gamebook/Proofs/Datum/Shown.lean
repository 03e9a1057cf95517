/-
# What can be shown

A datum is shown in full, and that has two limits: an integer in it may have too many digits
(`Datum.Overlong`), and its parts may be nested too deeply (`Datum.Nests`).  There is no other one,
and each of them is met wherever it is exceeded (`Datum.failsExactly_shown`).
-/
import Gamebook.Datum.Printer
import Gamebook.Proofs.Fault

namespace Gamebook

/-! ## 1. Entries -/

namespace Fields

variable {δ : Type} {fields : Fields δ}

/-- What has a name is the value of an entry. -/
theorem mem_of_named? {name : Text} {d : δ} (named : fields.named? name = some d) :
    ∃ field ∈ fields, field.2 = d := by
  unfold Fields.named? at named
  obtain ⟨field, found, rfl⟩ := Option.map_eq_some_iff.mp named
  exact ⟨field, List.mem_of_find?_eq_some found, rfl⟩

end Fields

/-! ## 2. The limits -/

/-- Whether an atom is an integer with too many digits. -/
def Atom.IsOverlong (a : Atom) : Prop := ∃ n, a = .number n ∧ n.isOverlong = true

/-- **An integer with too many digits is somewhere in a datum.** -/
inductive Datum.Overlong : Datum → Prop
  | atom {a : Atom} (long : a.IsOverlong) : Overlong (.atom a)
  | item {d : Datum} {items : List Datum} (mem : d ∈ items) (long : Overlong d) :
      Overlong (.list items)
  | key {entry : Atom × Datum} {fields : Fields Datum} (mem : entry ∈ fields)
      (long : entry.1.IsOverlong) : Overlong (.map fields)
  | value {entry : Atom × Datum} {fields : Fields Datum} (mem : entry ∈ fields)
      (long : Overlong entry.2) : Overlong (.map fields)

/-- **Something lies that many layers below a datum.**  A key of a mapping lies as deep as its
value. -/
inductive Datum.Nests : Nat → Datum → Prop
  | here {d : Datum} : Nests 0 d
  | item {depth : Nat} {d : Datum} {items : List Datum} (mem : d ∈ items) (deep : Nests depth d) :
      Nests (depth + 1) (.list items)
  | value {depth : Nat} {entry : Atom × Datum} {fields : Fields Datum} (mem : entry ∈ fields)
      (deep : Nests depth entry.2) : Nests (depth + 1) (.map fields)

/-- **Why a datum cannot be shown** down to some depth. -/
def Datum.Unshowable (depth : Nat) (d : Datum) (fault : Fault) : Prop :=
  fault = .tooManyDigits ∧ d.Overlong ∨ fault = .tooDeep ∧ d.Nests depth

namespace Datum

variable {depth : Nat} {d : Datum} {a : Atom} {items : List Datum} {fields : Fields Datum}
  {fault : Fault}

theorem overlong_atom_iff : (Datum.atom a).Overlong ↔ a.IsOverlong :=
  ⟨fun | .atom long => long, .atom⟩

theorem overlong_list_iff : (Datum.list items).Overlong ↔ ∃ d ∈ items, d.Overlong :=
  ⟨fun | .item mem long => ⟨_, mem, long⟩, fun ⟨_, mem, long⟩ => .item mem long⟩

theorem overlong_map_iff :
    (Datum.map fields).Overlong ↔
      ∃ entry ∈ fields, entry.1.IsOverlong ∨ entry.2.Overlong := by
  constructor
  · intro long
    cases long with
    | key mem long => exact ⟨_, mem, .inl long⟩
    | value mem long => exact ⟨_, mem, .inr long⟩
  · rintro ⟨entry, mem, long | long⟩
    · exact .key mem long
    · exact .value mem long

theorem not_nests_atom : ¬ Nests (depth + 1) (.atom a) := by
  intro deep
  cases deep

/-- An atom lies no deeper than anything else. -/
theorem Nests.of_atom (deep : Nests depth (.atom a)) : d.Nests depth := by
  cases deep
  exact .here

/-- Where there is room for anything there is room for an atom. -/
theorem unshowable_atom_iff (room : 0 < depth) :
    (Datum.atom a).Unshowable depth fault ↔ fault = .tooManyDigits ∧ a.IsOverlong := by
  obtain _ | depth := depth
  · contradiction
  · simp [Unshowable, overlong_atom_iff, not_nests_atom]

theorem nests_list_iff : Nests (depth + 1) (.list items) ↔ ∃ d ∈ items, d.Nests depth :=
  ⟨fun | .item mem deep => ⟨_, mem, deep⟩, fun ⟨_, mem, deep⟩ => .item mem deep⟩

theorem nests_map_iff :
    Nests (depth + 1) (.map fields) ↔ ∃ entry ∈ fields, entry.2.Nests depth :=
  ⟨fun | .value mem deep => ⟨_, mem, deep⟩, fun ⟨_, mem, deep⟩ => .value mem deep⟩

theorem not_nests_list (shallow : ∀ d ∈ items, ¬ d.Nests depth) :
    ¬ Nests (depth + 1) (.list items) := by
  intro deep
  obtain ⟨d, mem, deep⟩ := nests_list_iff.mp deep
  exact shallow d mem deep

theorem not_nests_map (shallow : ∀ entry ∈ fields, ¬ entry.2.Nests depth) :
    ¬ Nests (depth + 1) (.map fields) := by
  intro deep
  obtain ⟨entry, mem, deep⟩ := nests_map_iff.mp deep
  exact shallow entry mem deep

/-- What lies below something lies above something, or is it. -/
theorem Nests.of_succ (deep : d.Nests (depth + 1)) : d.Nests depth := by
  induction depth generalizing d with
  | zero => exact .here
  | succ depth ih =>
    cases deep with
    | item mem deep => exact .item mem (ih deep)
    | value mem deep => exact .value mem (ih deep)

/-- A part that is nested deeply is nested deeply in the whole. -/
theorem Nests.of_value {entry : Atom × Datum} (deep : entry.2.Nests depth)
    (mem : entry ∈ fields) : (Datum.map fields).Nests depth :=
  Nests.of_succ (.value mem deep)

theorem unshowable_list_iff :
    (Datum.list items).Unshowable (depth + 1) fault ↔ ∃ d ∈ items, d.Unshowable depth fault := by
  simp only [Unshowable, overlong_list_iff, nests_list_iff, and_or_left, exists_or,
    ← exists_and_left, and_left_comm]

/-- The keys of a mapping count like its values: they are as deep. -/
theorem unshowable_map_iff :
    (Datum.map fields).Unshowable (depth + 1) fault ↔
      ∃ entry ∈ fields, (Datum.atom entry.1).Unshowable depth fault ∨
        entry.2.Unshowable depth fault := by
  simp only [Unshowable, overlong_map_iff, nests_map_iff, overlong_atom_iff]
  constructor
  · rintro (⟨rfl, entry, mem, long | long⟩ | ⟨rfl, entry, mem, deep⟩)
    · exact ⟨entry, mem, .inl (.inl ⟨rfl, long⟩)⟩
    · exact ⟨entry, mem, .inr (.inl ⟨rfl, long⟩)⟩
    · exact ⟨entry, mem, .inr (.inr ⟨rfl, deep⟩)⟩
  · rintro ⟨entry, mem, (⟨rfl, long⟩ | ⟨rfl, deep⟩) | (⟨rfl, long⟩ | ⟨rfl, deep⟩)⟩
    · exact .inl ⟨rfl, entry, mem, .inl long⟩
    · exact .inr ⟨rfl, entry, mem, deep.of_atom⟩
    · exact .inl ⟨rfl, entry, mem, .inr long⟩
    · exact .inr ⟨rfl, entry, mem, deep⟩

end Datum

/-! ## 3. Showing -/

theorem Atom.failsExactly_shown (a : Atom) :
    FailsExactly a.shown fun fault => fault = .tooManyDigits ∧ a.IsOverlong := by
  cases a with
  | number n =>
    cases many : n.isOverlong with
    | true => simpa [shown, IsOverlong, many] using FailsExactly.error .tooManyDigits
    | false => simpa [shown, IsOverlong, many] using FailsExactly.ok n.shown
  | null | bool b | text t | date d | moment m | bytes bs =>
    exact (FailsExactly.ok _).congr (by simp [IsOverlong])

namespace Datum

/-- **A datum cannot be shown if it is nested too deeply, or if an integer in it has too many
digits**, and for no other reason; by induction on the depth that there is room for. -/
theorem failsExactly_shownWithin (depth : Nat) (d : Datum) :
    FailsExactly (d.shownWithin depth) (d.Unshowable depth) := by
  induction depth generalizing d with
  | zero =>
    refine ⟨fun fault failed => ?_, fun _ _ => ⟨.tooDeep, rfl⟩⟩
    cases failed
    exact .inr ⟨rfl, .here⟩
  | succ depth ih =>
    cases d with
    | atom a =>
      exact a.failsExactly_shown.congr fun fault => (unshowable_atom_iff (Nat.succ_pos _)).symm
    | list items =>
      exact ((FailsExactly.mapM fun d _ => ih d).map shownList).congr
        fun fault => unshowable_list_iff.symm
    | map fields =>
      have each (entry : Atom × Datum) := (ih (.atom entry.1)).bind fun name =>
        (ih entry.2).bind fun value => FailsExactly.ok (name ++ ": " ++ value)
      refine ((FailsExactly.mapM fun entry _ => each entry).map shownBraces).congr fun fault => ?_
      simp only [or_false]
      exact unshowable_map_iff.symm

theorem shown_of_isOverlong {n : Number} (long : n.isOverlong = true) :
    (Datum.atom (.number n)).shown = .error .tooManyDigits :=
  if_pos long

theorem failsExactly_shown (d : Datum) : FailsExactly d.shown (d.Unshowable shownLimit) :=
  failsExactly_shownWithin shownLimit d

/-- Where no digits are in the way, the depth is. -/
theorem shown_of_nests {d : Datum} (deep : d.Nests shownLimit) (short : ¬ d.Overlong) :
    d.shown = .error .tooDeep := by
  obtain ⟨fault, failed⟩ := d.failsExactly_shown.fails .tooDeep (.inr ⟨rfl, deep⟩)
  rcases d.failsExactly_shown.only fault failed with ⟨-, long⟩ | ⟨rfl, -⟩
  · exact absurd long short
  · exact failed

end Datum
end Gamebook

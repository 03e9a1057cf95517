/-
# Readings that succeed and readings that fail

A reading gives something or ends with a fault.  What is read in steps is read exactly if every step
is (`bind_ok_iff`, `mapM_ok_iff`), and fails only as its steps fail (`FailsOnly`).  Where it is
known of every step what makes it fail, it is known of the whole (`FailsExactly`).
-/
import Gamebook.Fault
import Mathlib.Data.List.Forall2

namespace Gamebook

/-! ## 1. Readings that succeed -/

theorem bind_ok_iff {ε α β : Type} {x : Except ε α} {f : α → Except ε β} {b : β} :
    (x >>= f) = .ok b ↔ ∃ a, x = .ok a ∧ f a = .ok b := by
  constructor
  · intro done
    cases x with
    | error e => cases done
    | ok a => exact ⟨a, rfl, done⟩
  · rintro ⟨a, rfl, done⟩
    exact done

theorem bind_error_iff {ε α β : Type} {x : Except ε α} {f : α → Except ε β} {e : ε} :
    (x >>= f) = .error e ↔ x = .error e ∨ ∃ a, x = .ok a ∧ f a = .error e := by
  cases x <;> simp [bind, Except.bind]

theorem exists_error_iff {ε α : Type} {x : Except ε α} :
    (∃ e, x = .error e) ↔ ¬ ∃ a, x = .ok a := by
  cases x <;> simp

/-- A list is read if all its members are. -/
theorem mapM_ok_iff {ε α β : Type} {f : α → Except ε β} {as : List α} {bs : List β} :
    as.mapM f = .ok bs ↔ List.Forall₂ (fun a b => f a = .ok b) as bs := by
  induction as generalizing bs with
  | nil =>
    rw [List.mapM_nil, List.forall₂_nil_left_iff]
    constructor
    · intro read
      exact (Except.ok.inj read).symm
    · rintro rfl
      rfl
  | cons a as ih =>
    simp only [List.mapM_cons, bind_ok_iff, ih, List.forall₂_cons_left_iff]
    constructor
    · rintro ⟨b, first, rest, others, read⟩
      exact ⟨b, rest, first, others, (Except.ok.inj read).symm⟩
    · rintro ⟨b, rest, first, others, rfl⟩
      exact ⟨b, first, rest, others, rfl⟩

theorem exists_mapM_ok_iff {ε α β : Type} {f : α → Except ε β} {as : List α} :
    (∃ bs, as.mapM f = .ok bs) ↔ ∀ a ∈ as, ∃ b, f a = .ok b := by
  simp only [mapM_ok_iff]
  induction as with
  | nil => simp
  | cons a as ih =>
    simp only [List.forall₂_cons_left_iff, List.forall_mem_cons, ← ih]
    constructor
    · rintro ⟨_, b, bs, first, others, -⟩
      exact ⟨⟨b, first⟩, ⟨bs, others⟩⟩
    · rintro ⟨⟨b, first⟩, ⟨bs, others⟩⟩
      exact ⟨b :: bs, b, bs, first, others, rfl⟩

/-- A list is not read if one of its members is not; the first of them is what counts. -/
theorem mapM_error_iff {ε α β : Type} {f : α → Except ε β} {as : List α} {e : ε} :
    as.mapM f = .error e ↔
      ∃ before a after, as = before ++ a :: after ∧ (∀ b ∈ before, ∃ c, f b = .ok c) ∧
        f a = .error e := by
  induction as with
  | nil =>
    rw [List.mapM_nil]
    refine iff_of_false nofun ?_
    rintro ⟨before, a, after, split, -⟩
    simp at split
  | cons first rest ih =>
    rw [List.mapM_cons, bind_error_iff]
    constructor
    · rintro (failed | ⟨b, read, failed⟩)
      · exact ⟨[], first, rest, rfl, nofun, failed⟩
      · rcases bind_error_iff.mp failed with failed | ⟨_, -, done⟩
        · obtain ⟨before, a, after, rfl, readable, failed⟩ := ih.mp failed
          exact ⟨first :: before, a, after, rfl,
            List.forall_mem_cons.mpr ⟨⟨b, read⟩, readable⟩, failed⟩
        · cases done
    · rintro ⟨before, a, after, split, readable, failed⟩
      cases before with
      | nil =>
        obtain ⟨rfl, rfl⟩ := List.cons.inj split
        exact .inl failed
      | cons b before =>
        obtain ⟨rfl, rfl⟩ := List.cons.inj split
        obtain ⟨⟨c, read⟩, readable⟩ := List.forall_mem_cons.mp readable
        have others := ih.mpr ⟨before, a, after, rfl, readable, failed⟩
        exact .inr ⟨c, read, bind_error_iff.mpr (.inl others)⟩

theorem mapError_ok_iff {ε ζ α : Type} {f : ε → ζ} {x : Except ε α} {a : α} :
    x.mapError f = .ok a ↔ x = .ok a := by
  cases x <;> simp [Except.mapError]

theorem mapError_error_iff {ε ζ α : Type} {f : ε → ζ} {x : Except ε α} {e : ζ} :
    x.mapError f = .error e ↔ ∃ cause, x = .error cause ∧ f cause = e := by
  cases x <;> simp [Except.mapError]

/-- What stands against a list in two pieces stands in two pieces itself. -/
theorem forall₂_append_left_iff {α β : Type} {R : α → β → Prop} {as bs : List α} {cs : List β} :
    List.Forall₂ R (as ++ bs) cs ↔
      ∃ ds es, List.Forall₂ R as ds ∧ List.Forall₂ R bs es ∧ cs = ds ++ es := by
  constructor
  · intro h
    induction as generalizing cs with
    | nil => exact ⟨[], cs, .nil, h, rfl⟩
    | cons a as ih =>
      obtain ⟨c, rest, first, others, rfl⟩ := List.forall₂_cons_left_iff.mp h
      obtain ⟨ds, es, before, after, rfl⟩ := ih others
      exact ⟨c :: ds, es, .cons first before, after, rfl⟩
  · rintro ⟨ds, es, before, after, rfl⟩
    exact List.rel_append before after

/-! ## 2. Readings that fail -/

/-- A reading that fails, if at all, with one of some faults. -/
def FailsOnly {α : Type} (faulty : Fault → Prop) (read : Except Fault α) : Prop :=
  ∀ fault, read = .error fault → faulty fault

variable {faulty : Fault → Prop} {α β : Type}

theorem failsOnly_ok (a : α) : FailsOnly faulty (.ok a) := nofun

theorem FailsOnly.bind {read : Except Fault α} {next : α → Except Fault β}
    (first : FailsOnly faulty read) (after : ∀ a, FailsOnly faulty (next a)) :
    FailsOnly faulty (read >>= next) := by
  intro fault failed
  cases read with
  | error other =>
    cases failed
    exact first _ rfl
  | ok a => exact after a fault failed

theorem FailsOnly.map {read : Except Fault α} (first : FailsOnly faulty read) (f : α → β) :
    FailsOnly faulty (read.map f) := by
  intro fault failed
  cases read with
  | error other =>
    cases failed
    exact first _ rfl
  | ok a => contradiction

theorem FailsOnly.mapM {read : α → Except Fault β} {as : List α}
    (each : ∀ a ∈ as, FailsOnly faulty (read a)) : FailsOnly faulty (as.mapM read) := by
  induction as with
  | nil =>
    rw [List.mapM_nil]
    exact failsOnly_ok []
  | cons a as ih =>
    rw [List.forall_mem_cons] at each
    rw [List.mapM_cons]
    refine each.1.bind fun b => ?_
    exact (ih each.2).bind fun bs => failsOnly_ok (b :: bs)

theorem FailsOnly.foldlM {step : β → α → Except Fault β} {as : List α}
    (each : ∀ a ∈ as, ∀ b, FailsOnly faulty (step b a)) (b : β) :
    FailsOnly faulty (as.foldlM step b) := by
  induction as generalizing b with
  | nil => exact failsOnly_ok b
  | cons a as ih =>
    rw [List.forall_mem_cons] at each
    rw [List.foldlM_cons]
    exact (each.1 b).bind fun next => ih each.2 next

/-- A reading that fails in no way gives something. -/
theorem FailsOnly.exists_ok {read : Except Fault α} (h : FailsOnly (fun _ => False) read) :
    ∃ a, read = .ok a := by
  cases read with
  | error fault => exact (h fault rfl).elim
  | ok a => exact ⟨a, rfl⟩

/-! ## 3. Readings with known causes of failure -/

/-- A reading that fails exactly if there is a cause for that, and by a fault that there is a cause
for. -/
structure FailsExactly {α : Type} (read : Except Fault α) (cause : Fault → Prop) : Prop where
  only : FailsOnly cause read
  fails : ∀ fault, cause fault → ∃ met, read = .error met

namespace FailsExactly

variable {read : Except Fault α} {cause cause' : Fault → Prop}

theorem ok (a : α) : FailsExactly (.ok a) fun _ => False :=
  ⟨failsOnly_ok a, fun _ none => none.elim⟩

theorem error (fault : Fault) : FailsExactly (.error fault : Except Fault α) (· = fault) :=
  ⟨fun _ failed => (Except.error.inj failed).symm, fun _ _ => ⟨fault, rfl⟩⟩

theorem congr (h : FailsExactly read cause) (same : ∀ fault, cause fault ↔ cause' fault) :
    FailsExactly read cause' :=
  ⟨fun fault failed => (same fault).mp (h.only fault failed),
    fun fault due => h.fails fault ((same fault).mpr due)⟩

/-- The second step counts only if the first one gives something, which it does without a cause. -/
theorem bind {next : α → Except Fault β} (first : FailsExactly read cause)
    (after : ∀ a, FailsExactly (next a) cause') :
    FailsExactly (read >>= next) fun fault => cause fault ∨ cause' fault where
  only := FailsOnly.bind (fun fault failed => .inl (first.only fault failed)) fun a fault failed =>
    .inr ((after a).only fault failed)
  fails := by
    rintro fault (due | due)
    · obtain ⟨met, failed⟩ := first.fails fault due
      exact ⟨met, bind_error_iff.mpr (.inl failed)⟩
    · cases read with
      | error met => exact ⟨met, rfl⟩
      | ok a => exact (after a).fails fault due

theorem map (h : FailsExactly read cause) (f : α → β) : FailsExactly (read.map f) cause where
  only := h.only.map f
  fails fault due := by
    obtain ⟨met, rfl⟩ := h.fails fault due
    exact ⟨met, rfl⟩

theorem mapM {read : α → Except Fault β} {cause : α → Fault → Prop} {as : List α}
    (each : ∀ a ∈ as, FailsExactly (read a) (cause a)) :
    FailsExactly (as.mapM read) fun fault => ∃ a ∈ as, cause a fault := by
  induction as with
  | nil =>
    rw [List.mapM_nil]
    exact (ok []).congr (by simp)
  | cons a as ih =>
    rw [List.forall_mem_cons] at each
    rw [List.mapM_cons]
    refine (each.1.bind fun b => (ih each.2).bind fun bs => ok (b :: bs)).congr ?_
    simp

end FailsExactly

end Gamebook

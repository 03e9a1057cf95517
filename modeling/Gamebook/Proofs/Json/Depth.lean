/-
# How deep a JSON text goes

A text is read only as long as its lists and objects are nested no deeper than `Json.depthLimit`.
So what it holds is nested no deeper either (`Json.not_nests_of_read`), and that it can be shown
does not depend on its depth.
-/
import Gamebook.Json.Reader
import Gamebook.Proofs.Datum.Shown

namespace Gamebook

namespace Fields

variable {δ : Type}

theorem mem_of_mem_put {entry : Atom × δ} {key : Atom} {value : δ} {fields : Fields δ}
    (mem : entry ∈ fields.put key value) : entry.2 = value ∨ entry ∈ fields := by
  induction fields with
  | nil =>
    obtain rfl := List.mem_singleton.mp mem
    exact .inl rfl
  | cons first rest ih =>
    unfold put at mem
    split at mem
    · rcases List.mem_cons.mp mem with rfl | mem
      · exact .inl rfl
      · exact .inr (List.mem_cons_of_mem _ mem)
    · rcases List.mem_cons.mp mem with rfl | mem
      · exact .inr (List.mem_cons_self ..)
      · exact (ih mem).imp_right (List.mem_cons_of_mem _)

/-- The values of a mapping are among those that were written. -/
theorem mem_of_mem_ofEntries {entry : Atom × δ} {entries : List (Atom × δ)}
    (mem : entry ∈ ofEntries entries) : ∃ written ∈ entries, written.2 = entry.2 := by
  revert entry
  unfold ofEntries
  refine List.foldlRecOn (motive := fun fields : Fields δ =>
    ∀ {entry}, entry ∈ fields → ∃ written ∈ entries, written.2 = entry.2) entries _ (by simp) ?_
  intro fields known entry mem other mem'
  rcases mem_of_mem_put mem' with value | mem'
  · exact ⟨entry, mem, value.symm⟩
  · exact known mem'

end Fields

namespace Json

open Text (Rest)

/-- What is neither a text nor in brackets is an atom. -/
theorem atom_of_value {depth : Nat} {cs : List Char} {d : Datum} {last : Rest cs}
    (noText : ∀ rest, cs = '"' :: rest → False) (noList : ∀ rest, cs = '[' :: rest → False)
    (noObject : ∀ rest, cs = '\x7b' :: rest → False) (read : value depth cs = .ok (d, last)) :
    ∃ a, d = .atom a := by
  rw [value] at read
  · split at read
    · cases read
    · split at read
      · cases read
        exact ⟨_, rfl⟩
      · cases read
  · exact noText
  · exact noList
  · exact noObject

/-- What is read within some depth lies within it; by the recursion of the readers. -/
theorem not_nests_value (depth : Nat) (cs : List Char) :
    ∀ d rest, value depth cs = .ok (d, rest) → ¬ d.Nests (depth + 1) := by
  revert depth cs
  refine value.induct
    (fun depth cs => ∀ d rest, value depth cs = .ok (d, rest) → ¬ d.Nests (depth + 1))
    (fun depth cs => ∀ entries rest, members depth cs = .ok (entries, rest) →
      ∀ entry ∈ entries, ¬ entry.2.Nests (depth + 1))
    (fun depth cs => ∀ ds rest, items depth cs = .ok (ds, rest) → ∀ d ∈ ds, ¬ d.Nests (depth + 1))
    ?text ?noList ?emptyList ?list ?noObject ?emptyObject ?object ?noScalar ?scalar ?stuck
    ?member ?noMember ?items
  case text =>
    intro depth rest d after read
    rw [value] at read
    obtain ⟨_, _, read⟩ := bind_ok_iff.mp read
    cases read
    exact Datum.not_nests_atom
  case noList =>
    intro rest d after read
    rw [value] at read
    cases read
  case emptyList =>
    intro depth rest room after close d last read
    rw [value, if_neg room] at read
    split at read
    · cases read
      exact Datum.not_nests_list (List.forall_mem_nil _)
    · rename_i other
      exact absurd close (other after)
  case list =>
    intro depth rest room other ih d last read
    rw [value, if_neg room] at read
    split at read
    · rename_i after close
      exact (other after close).elim
    · obtain ⟨⟨found, after⟩, inside, read⟩ := bind_ok_iff.mp read
      cases read
      refine Datum.not_nests_list fun item mem => ?_
      have shallow := ih found after inside item mem
      rwa [Nat.sub_add_cancel (Nat.pos_of_ne_zero room)] at shallow
  case noObject =>
    intro rest d after read
    rw [value] at read
    cases read
  case emptyObject =>
    intro depth rest room after close d last read
    rw [value, if_neg room] at read
    split at read
    · cases read
      exact Datum.not_nests_map (List.forall_mem_nil _)
    · rename_i other
      exact absurd close (other after)
  case object =>
    intro depth rest room other ih d last read
    rw [value, if_neg room] at read
    split at read
    · rename_i after close
      exact (other after close).elim
    · obtain ⟨⟨found, after⟩, inside, read⟩ := bind_ok_iff.mp read
      cases read
      refine Datum.not_nests_map fun entry mem => ?_
      obtain ⟨written, mem, same⟩ := Fields.mem_of_mem_ofEntries mem
      have shallow := ih found after inside written mem
      rwa [Nat.sub_add_cancel (Nat.pos_of_ne_zero room), same] at shallow
  case noScalar | scalar | stuck =>
    intros
    obtain ⟨a, rfl⟩ := atom_of_value ‹_› ‹_› ‹_› ‹_›
    exact Datum.not_nests_atom
  case member =>
    intro depth rest first others entries last read
    rw [members] at read
    obtain ⟨⟨name, afterName⟩, -, read⟩ := bind_ok_iff.mp read
    dsimp only at read
    split at read
    · rename_i colon toColon
      obtain ⟨⟨d, after⟩, inside, read⟩ := bind_ok_iff.mp read
      have shallow := first afterName colon toColon d after inside
      dsimp only at read
      split at read
      · cases read
        exact List.forall_mem_singleton.mpr shallow
      · rename_i next toNext
        obtain ⟨⟨more, final⟩, behind, read⟩ := bind_ok_iff.mp read
        cases read
        exact List.forall_mem_cons.mpr
          ⟨shallow, others afterName colon toColon after next toNext more final behind⟩
      · cases read
    · cases read
  case noMember =>
    intro depth cs noName entries rest read
    rw [members] at read
    · cases read
    · exact noName
  case items =>
    intro depth cs first others ds last read
    rw [items] at read
    obtain ⟨⟨d, after⟩, inside, read⟩ := bind_ok_iff.mp read
    have shallow := first d after inside
    dsimp only at read
    split at read
    · cases read
      exact List.forall_mem_singleton.mpr shallow
    · rename_i rest toNext
      obtain ⟨⟨more, final⟩, behind, read⟩ := bind_ok_iff.mp read
      cases read
      exact List.forall_mem_cons.mpr ⟨shallow, others after rest toNext more final behind⟩
    · cases read

/-- **What a JSON text holds is nested no deeper than the limit.** -/
theorem not_nests_of_read {text : List Char} {d : Datum} (read : Json.read text = .ok d) :
    ¬ d.Nests (depthLimit + 1) := by
  unfold Json.read at read
  split at read
  · cases read
  · obtain ⟨⟨found, after⟩, first, read⟩ := bind_ok_iff.mp read
    dsimp only at read
    split at read
    · cases read
      exact not_nests_value depthLimit _ _ _ first
    · cases read

end Json
end Gamebook

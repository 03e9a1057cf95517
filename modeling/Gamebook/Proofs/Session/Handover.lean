/-
# Handing over what is staged

Two fields say what is staged, and five kinds of turns write them or leave them.  This file reads
both off the turns that were taken, in `faithful_after`.

* **Latest.**  Some turns decide what is staged, and the others let it be.  Only the latest one that
  decides counts (`Latest`), and a turn more makes itself the latest or is one of the others
  (`latest_concat`).  Acknowledging decides the response and lets the destination be.
* **Once.**  What a commit gives out was staged, and each staged destination is given out once, in
  this order (`given_sublist`).
* **Apart.**  Listeners come and go, and are notified, as if nothing was ever staged.  One who
  stages something while called takes a turn of its own, which comes after the notification.
-/
import Gamebook.Proofs.Session.Registry
import Gamebook.Proofs.Session.Standing
import Mathlib.Data.List.Induction

namespace Gamebook

/-! ## 1. Turns -/

/-- What can be done to a staging and to those who listen. -/
inductive Turn where
  | stage (destination : Text) (response : Option Text)
  | acknowledge
  | commit
  | clear
  | ask (request : Request)

namespace Turn

/-- Whether a turn decides which destination is staged. -/
def decidesDestination : Turn → Bool
  | .stage .. | .commit | .clear => true
  | .acknowledge | .ask _ => false

/-- Whether a turn decides which response is staged. -/
def decidesResponse : Turn → Bool
  | .stage .. | .acknowledge | .commit | .clear => true
  | .ask _ => false

/-- The destination that a turn stages: an empty one is none. -/
def destination? : Turn → Option Text
  | .stage destination _ => Staging.nonempty destination
  | _ => none

/-- What a turn asks of the registry. -/
def request? : Turn → Option Request
  | .ask request => some request
  | _ => none

end Turn

/-- A staging and those who listen. -/
structure Handover where
  staging : Staging := {}
  registry : Registry := {}

namespace Handover

/-- Takes a turn. -/
def carry (temper : Temper) (h : Handover) : Turn → Handover
  | .stage destination response => { h with staging := .stage destination response }
  | .acknowledge => { h with staging := h.staging.acknowledge }
  | .commit => { h with staging := h.staging.commit.2 }
  | .clear => { h with staging := .clear }
  | .ask request => { h with registry := request.carry temper h.registry }

/-- What a turn gives out. -/
def yields (h : Handover) : Turn → Option Text
  | .commit => h.staging.commit.1
  | _ => none

/-- What is staged, and who listens, after some turns. -/
def after (temper : Temper) (turns : List Turn) : Handover := turns.foldl (carry temper) {}

/-- All that some turns give out, in order. -/
def given (temper : Temper) : Handover → List Turn → List Text
  | _, [] => []
  | h, turn :: rest => (h.yields turn).toList ++ given temper (h.carry temper turn) rest

end Handover

/-! ## 2. The latest turn that decides -/

/-- **Whether a turn is the latest one that decides**: no later one does. -/
def Latest (decides : Turn → Bool) (turns : List Turn) (turn : Turn) : Prop :=
  ∃ before later, turns = before ++ turn :: later ∧ ∀ other ∈ later, decides other = false

section

variable {decides : Turn → Bool} {turns : List Turn} {turn other : Turn}

theorem not_latest_nil : ¬ Latest decides [] turn := by
  rintro ⟨before, later, none, -⟩
  exact absurd none.symm (List.append_ne_nil_of_right_ne_nil before (List.cons_ne_nil _ _))

/-- With a turn more, the latest is that one, or it is who it was and that one decides nothing. -/
theorem latest_concat :
    Latest decides (turns ++ [other]) turn ↔
      other = turn ∨ (Latest decides turns turn ∧ decides other = false) := by
  constructor
  · rintro ⟨before, later, split, silent⟩
    rcases List.eq_nil_or_concat later with rfl | ⟨later, final, rfl⟩
    · exact .inl (List.append_inj' split rfl |>.2 |> List.singleton_inj.mp)
    · rw [List.concat_eq_append, ← List.cons_append, ← List.append_assoc] at split
      obtain ⟨rfl, final_eq⟩ := List.append_inj' split rfl
      obtain rfl := List.singleton_inj.mp final_eq
      exact .inr ⟨⟨before, later, rfl, fun x mem => silent x (by simp [mem])⟩,
        silent other (by simp)⟩
  · rintro (rfl | ⟨⟨before, later, rfl, silent⟩, quiet⟩)
    · exact ⟨turns, [], rfl, nofun⟩
    · refine ⟨before, later ++ [other], by simp, fun x mem => ?_⟩
      rcases List.mem_append.mp mem with old | new
      · exact silent x old
      · rw [List.mem_singleton.mp new]
        exact quiet

end

theorem Staging.nonempty_eq_some_iff {text result : Text} :
    nonempty text = some result ↔ text = result ∧ result ≠ [] := by
  cases text <;> simp +contextual [nonempty, eq_comm]

namespace Handover

variable {temper : Temper} {turns : List Turn}

theorem after_concat (temper : Temper) (turns : List Turn) (turn : Turn) :
    after temper (turns ++ [turn]) = (after temper turns).carry temper turn :=
  List.foldl_concat ..

/-- The staged destination is that of the latest stage, if no later turn decides otherwise. -/
theorem destination_after (temper : Temper) (turns : List Turn) (destination : Text) :
    (after temper turns).staging.destination = some destination ↔
      destination ≠ [] ∧
        ∃ response, Latest Turn.decidesDestination turns (.stage destination response) := by
  induction turns using List.reverseRecOn with
  | nil => simp [after, not_latest_nil]
  | append_singleton turns turn ih =>
    rw [after_concat]
    cases turn with
    | stage new response =>
      simp [latest_concat, carry, Staging.stage, Staging.nonempty_eq_some_iff,
        Turn.decidesDestination, and_comm]
    | acknowledge | ask request =>
      simpa [latest_concat, carry, Staging.acknowledge, Turn.decidesDestination] using ih
    | commit | clear =>
      simp [latest_concat, carry, Staging.commit, Staging.clear, Turn.decidesDestination]

/-- The staged response is that of the latest stage, if no later turn decides otherwise. -/
theorem response_after (temper : Temper) (turns : List Turn) (response : Text) :
    (after temper turns).staging.response = some response ↔
      response ≠ [] ∧
        ∃ destination, Latest Turn.decidesResponse turns (.stage destination (some response)) := by
  induction turns using List.reverseRecOn with
  | nil => simp [after, not_latest_nil]
  | append_singleton turns turn ih =>
    rw [after_concat]
    cases turn with
    | stage destination new =>
      cases new <;>
        simp [latest_concat, carry, Staging.stage, Staging.nonempty_eq_some_iff,
          Turn.decidesResponse, and_comm]
    | ask request => simpa [latest_concat, carry, Turn.decidesResponse] using ih
    | acknowledge | commit | clear =>
      simp [latest_concat, carry, Staging.acknowledge, Staging.commit, Staging.clear,
        Turn.decidesResponse]

/-- Nothing ambiguous is ever staged. -/
theorem unambiguous_after (temper : Temper) (turns : List Turn) :
    (after temper turns).staging.Unambiguous := by
  induction turns using List.reverseRecOn with
  | nil => exact Staging.unambiguous_clear
  | append_singleton turns turn ih =>
    rw [after_concat]
    cases turn with
    | stage destination response => exact Staging.unambiguous_stage destination response
    | acknowledge => exact ih.acknowledge
    | commit | clear => exact Staging.unambiguous_clear
    | ask request => exact ih

/-! ## 3. Given out once -/

/-- What a turn gives out, and what is staged after it, was staged before or is staged by it. -/
theorem yields_sublist (temper : Temper) (h : Handover) (turn : Turn) :
    ((h.yields turn).toList ++ (h.carry temper turn).staging.destination.toList).Sublist
      (h.staging.destination.toList ++ turn.destination?.toList) := by
  cases turn with
  | stage destination response => exact List.sublist_append_right _ _
  | acknowledge | ask request => exact List.sublist_append_left _ _
  | commit => exact List.Sublist.refl _
  | clear => exact List.nil_sublist _

/-- What is given out was staged, each time anew. -/
theorem given_sublist (temper : Temper) (h : Handover) (turns : List Turn) :
    (given temper h turns).Sublist
      (h.staging.destination.toList ++ turns.filterMap Turn.destination?) := by
  induction turns generalizing h with
  | nil => exact List.nil_sublist _
  | cons turn rest ih =>
    have first : (turn :: rest).filterMap Turn.destination? =
        turn.destination?.toList ++ rest.filterMap Turn.destination? := by
      cases found : turn.destination? <;> simp [found]
    rw [first, given, ← List.append_assoc]
    calc ((h.yields turn).toList ++ given temper (h.carry temper turn) rest).Sublist
          ((h.yields turn).toList ++ ((h.carry temper turn).staging.destination.toList ++
            rest.filterMap Turn.destination?)) := (ih _).append_left _
      _ = ((h.yields turn).toList ++ (h.carry temper turn).staging.destination.toList) ++
            rest.filterMap Turn.destination? := (List.append_assoc ..).symm
      List.Sublist _ _ := (yields_sublist temper h turn).append_right _

/-- Those who listen do not notice what is staged. -/
theorem registry_after (temper : Temper) (turns : List Turn) :
    (after temper turns).registry = Registry.after temper (turns.filterMap Turn.request?) := by
  induction turns using List.reverseRecOn with
  | nil => rfl
  | append_singleton turns turn ih =>
    rw [after_concat, List.filterMap_append]
    cases turn with
    | ask request =>
      simp only [carry, ih, Registry.after, List.filterMap_cons, Turn.request?, List.filterMap_nil,
        List.foldl_concat]
    | stage destination response | acknowledge | commit | clear =>
      simp only [carry, ih, List.filterMap_cons, Turn.request?, List.filterMap_nil, List.append_nil]

/-! ## 4. What holds after all turns -/

/-- **How what is staged, and given out, depends on the turns that were taken.** -/
structure Faithful (temper : Temper) (turns : List Turn) : Prop where
  /-- A commit gives out the destination of the last stage, unless that is empty or a commit or
  clear came after it. -/
  destination : ∀ destination, (after temper turns).yields .commit = some destination ↔
    destination ≠ [] ∧
      ∃ response, Latest Turn.decidesDestination turns (.stage destination response)
  /-- To be read is the response of the last stage, unless there is none, or an empty one, or it was
  acknowledged, or a commit or clear came after it. -/
  response : ∀ response, (after temper turns).staging.response = some response ↔
    response ≠ [] ∧
      ∃ destination, Latest Turn.decidesResponse turns (.stage destination (some response))
  /-- What is to be done next is to read the response if there is one, to enter the destination if
  there is only that, and nothing otherwise. -/
  next : (after temper turns).staging.next =
    if (after temper turns).staging.response.isSome then .response
    else if (after temper turns).staging.destination.isSome then .transition
    else .nothing
  /-- What was given out was staged, each destination at most once for each time it was staged. -/
  once : (given temper {} turns).Sublist (turns.filterMap Turn.destination?)
  /-- Those who listen do not notice what is staged. -/
  apart : (after temper turns).registry =
    Registry.after temper (turns.filterMap Turn.request?)

/-- **Whatever turns are taken, and whomever those remove who are called, what is staged is handed
over faithfully.** -/
theorem faithful_after (temper : Temper) (turns : List Turn) : Faithful temper turns where
  destination := destination_after temper turns
  response := response_after temper turns
  next := by
    have unambiguous := unambiguous_after temper turns
    rw [Staging.next, Staging.present_eq_isSome unambiguous.response,
      Staging.present_eq_isSome unambiguous.destination]
  once := given_sublist temper {} turns
  apart := registry_after temper turns

/-- The hall replaces the gate, the response was read, and the second commit gives nothing out. -/
example :
    given .constant {} [.stage (.ofString "gate") none,
        .stage (.ofString "hall") (some (.ofString "Come in")), .acknowledge, .commit, .commit] =
      [.ofString "hall"] := by decide

end Handover
end Gamebook

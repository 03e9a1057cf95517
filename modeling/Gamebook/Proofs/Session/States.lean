/-
# The states of a session

`Session.state` is no field: it is computed by a chain of questions about the staging, the gate,
the ending and the index.  This file settles how the three commands of a reader move it, for
every session that a run can reach: `FollowsTable` is the table, one field for each entry, and
`followsTable_after` says that it is followed.

The chain is opened once, in two lemmas.  With something staged only the staging counts
(`Standing.state_of_staged`), with nothing staged only the place does (`Standing.state_of_free`).
That the two never mix is the invariant `Standing`: what is staged is staged at a gate, so putting
a response aside without a destination leads back to the gate and to nowhere else.
-/
import Gamebook.Proofs.Session.Standing

namespace Gamebook.Session

variable {game : Game} {s : Session}

/-! ## 1. The chain of questions, opened -/

theorem state_eq_notStarted_iff : s.state game = .notStarted ↔ s.scene = [] := by
  unfold state
  split
  · rename_i empty
    simpa using empty
  · rename_i entered
    refine iff_of_false ?_ (by simpa using entered)
    split
    · nofun
    · split
      · nofun
      · split
        · nofun
        · split <;> nofun

/-- With something staged, the state says what has to be done about it. -/
theorem Standing.state_of_staged (h : Standing game s) (entered : s.scene ≠ [])
    (staged : s.staging.isStaged = true) :
    s.state game = if s.showsResponse then .responseStaged else .transitionStaged := by
  rw [h.isStaged_eq] at staged
  unfold state
  rw [if_neg (by simpa using entered)]
  cases shows : s.showsResponse with
  | true => rfl
  | false =>
    rw [shows, Bool.false_or] at staged
    simp [staged]

/-- With nothing staged, the state says where the reader is. -/
theorem Standing.state_of_free (h : Standing game s) (entered : s.scene ≠ [])
    (free : s.staging.isStaged = false) :
    s.state game =
      if s.atGate then .choiceGated
      else if s.inEnding game && s.atEnd then .terminal
      else .playing := by
  rw [h.isStaged_eq, Bool.or_eq_false_iff] at free
  unfold state
  rw [if_neg (by simpa using entered), free.1, free.2]
  rfl

/-- **At a gate line only the staging counts**: the gate is what is left when nothing is staged. -/
theorem Standing.state_of_gate (h : Standing game s) (entered : s.scene ≠ [])
    (line : ∃ line, s.line? = some line ∧ line.isGate = true) :
    s.state game =
      if s.staging.response.isSome then .responseStaged
      else if s.staging.destination.isSome then .transitionStaged
      else .choiceGated := by
  have staged := h.unambiguous.isStaged_eq
  unfold state showsResponse awaitsTransition
  rw [if_neg (by simpa using entered)]
  cases response : s.staging.response.isSome with
  | true => rfl
  | false =>
    have unshown : s.staging.response.isNone = true := by simpa using response
    rw [response, Bool.false_or] at staged
    rw [unshown, Bool.and_true]
    cases destination : s.staging.destination.isSome with
    | true => rfl
    | false =>
      have gate : s.atGate = true := (atGate_iff s).mpr ⟨staged.trans destination, line⟩
      rw [gate]
      rfl

/-- The states of a reader with nothing staged. -/
theorem Standing.state_mem_of_free (h : Standing game s) (entered : s.scene ≠ [])
    (free : s.staging.isStaged = false) :
    s.state game ∈ [State.playing, .choiceGated, .terminal] := by
  rw [h.state_of_free entered free]
  split
  · simp
  · split <;> simp

theorem Standing.isStaged_iff (h : Standing game s) (entered : s.scene ≠ []) :
    s.staging.isStaged = true ↔
      s.state game = .responseStaged ∨ s.state game = .transitionStaged := by
  cases staged : s.staging.isStaged with
  | true =>
    rw [h.state_of_staged entered staged]
    cases s.showsResponse <;> simp
  | false =>
    have free := h.state_mem_of_free entered staged
    simp only [List.mem_cons, List.not_mem_nil, or_false] at free
    rcases free with hs | hs | hs <;> simp [hs]

theorem Standing.state_eq_choiceGated_iff (h : Standing game s) (entered : s.scene ≠ []) :
    s.state game = .choiceGated ↔ s.atGate = true := by
  cases staged : s.staging.isStaged with
  | true =>
    have away : s.atGate = false := by simp [atGate, staged]
    rw [h.state_of_staged entered staged, away]
    cases s.showsResponse <;> simp
  | false =>
    rw [h.state_of_free entered staged]
    cases s.atGate with
    | true => simp
    | false => cases s.inEnding game && s.atEnd <;> simp

/-- At the end of a scene there is no further line. -/
theorem length_le_of_atEnd (ended : s.atEnd = true) : s.lines.length ≤ s.index + 1 := by
  simp only [atEnd, line?, Bool.or_eq_true, Bool.and_eq_true, beq_iff_eq, Option.isNone_iff_eq_none,
    List.getElem?_eq_none_iff] at ended
  omega

/-! ## 2. The table -/

/-- **The table of states**: where each command of a reader leads from each state. -/
structure FollowsTable (game : Game) (choice : Choice) (s : Session) : Prop where
  /-- At a gate, before a transition and at the end, reading on changes no state. -/
  advance_waits : s.state game ∈ [State.choiceGated, .transitionStaged, .terminal] →
    s.advance.session.state game = s.state game
  /-- A response that was read gives way to its destination, or else to the gate. -/
  advance_response : s.state game = .responseStaged →
    s.advance.session.state game =
      if s.staging.destination.isSome then .transitionStaged else .choiceGated
  advance_playing : s.state game = .playing →
    s.advance.session.state game ∈ [State.playing, .choiceGated, .terminal]
  /-- Choices are made at a gate and nowhere else. -/
  select_elsewhere : s.state game ≠ .choiceGated → s.select game choice = s.idle
  /-- A choice that is carried out leads to its response, or else to its destination, or else
  nowhere; the destination is the one that is found after the effect. -/
  select_gated : s.state game = .choiceGated → (s.select game choice).fault = none →
    ∃ scene source, (s.recorded game choice).destination game choice = .ok (scene, source) ∧
      (s.select game choice).session.state game =
        if choice.response ≠ [] then .responseStaged
        else if scene ≠ [] then .transitionStaged
        else .choiceGated
  /-- Without a destination there is nothing to complete. -/
  complete_idle : s.staging.destination = none → s.complete game = s.idle
  /-- A destination is there only after a choice, and completing leads to the first line of exactly
  that scene, with nothing staged. -/
  complete_enters : ∀ scene, s.staging.destination = some scene →
    (s.state game = .responseStaged ∨ s.state game = .transitionStaged) ∧
      (s.complete game).session.scene = scene ∧
      (s.complete game).session.lines = game.story.linesOf scene ∧
      (s.complete game).session.index = 0 ∧
      (s.complete game).session.staging = .clear ∧
      (s.complete game).session.state game ∈ [State.playing, .choiceGated, .terminal]
  /-- No command of a reader undoes the start. -/
  advance_started : s.advance.session.state game ≠ .notStarted
  select_started : (s.select game choice).session.state game ≠ .notStarted
  complete_started : (s.complete game).session.state game ≠ .notStarted
  /-- The end stays the end. -/
  terminal_absorbs : s.state game = .terminal →
    s.advance.session.state game = .terminal ∧
      (s.select game choice).session.state game = .terminal ∧
      (s.complete game).session.state game = .terminal

/-! ## 3. Reading on -/

/-- A response that was read leaves its destination staged, or else the reader at the gate that
it was staged at. -/
theorem Standing.state_acknowledged (h : Standing game s) (entered : s.scene ≠ [])
    (staged : s.staging.isStaged = true) :
    s.acknowledged.state game =
      if s.staging.destination.isSome then .transitionStaged else .choiceGated := by
  exact h.acknowledged.state_of_gate entered (h.gated staged)

/-- With a further line and nothing staged the reader is neither at the end nor, away from a
gate, anywhere but playing. -/
theorem Standing.state_of_more (h : Standing game s) (entered : s.scene ≠ [])
    (away : s.atGate = false) (free : s.staging.isStaged = false)
    (more : s.index + 1 < s.lines.length) : s.state game = .playing := by
  have goesOn : s.atEnd = false :=
    Bool.eq_false_iff.mpr fun ended => absurd (length_le_of_atEnd ended) (by omega)
  rw [h.state_of_free entered free, away, goesOn, Bool.and_false]
  rfl

theorem Standing.advance_waits (h : Standing game s) (entered : s.scene ≠ [])
    (waits : s.state game ∈ [State.choiceGated, .transitionStaged, .terminal]) :
    s.advance.session.state game = s.state game := by
  simp only [List.mem_cons, List.not_mem_nil, or_false] at waits
  cases reading_advance s with
  | gated gate eq => rw [eq]; rfl
  | last away free done eq => rw [eq]; rfl
  | next away free more eq =>
    have playing := h.state_of_more entered away free more
    rcases waits with hs | hs | hs <;> rw [hs] at playing <;> contradiction
  | acknowledged away staged eq =>
    rw [eq, notify_eq, state_told, h.state_acknowledged entered staged]
    rw [h.state_of_staged entered staged] at waits ⊢
    cases shows : s.showsResponse with
    | true => simp [shows] at waits
    | false =>
      have awaits := h.isStaged_eq
      rw [staged, shows, Bool.false_or] at awaits
      have destination : s.staging.destination.isSome = true :=
        (Bool.and_eq_true_iff.mp awaits.symm).1
      rw [destination]
      rfl

theorem Standing.advance_response (h : Standing game s) (entered : s.scene ≠ [])
    (shown : s.state game = .responseStaged) :
    s.advance.session.state game =
      if s.staging.destination.isSome then .transitionStaged else .choiceGated := by
  have staged : s.staging.isStaged = true := (h.isStaged_iff entered).mpr (.inl shown)
  cases reading_advance s with
  | acknowledged away _ eq =>
    rw [eq, notify_eq, state_told, h.state_acknowledged entered staged]
  | gated gate eq => simp [atGate, staged] at gate
  | next away free more eq => simp [staged] at free
  | last away free done eq => simp [staged] at free

theorem Standing.advance_playing (h : Standing game s) (entered : s.scene ≠ [])
    (playing : s.state game = .playing) :
    s.advance.session.state game ∈ [State.playing, .choiceGated, .terminal] := by
  cases reading_advance s with
  | gated gate eq => rw [eq]; simp [idle, playing]
  | last away free done eq => rw [eq]; simp [idle, playing]
  | next away free more eq =>
    rw [eq, notify_eq, state_told]
    exact (h.turned free more).state_mem_of_free entered free
  | acknowledged away staged eq =>
    rcases (h.isStaged_iff entered).mp staged with hs | hs <;> simp [hs] at playing

/-! ## 4. Making a choice -/

theorem Standing.select_elsewhere (h : Standing game s) (entered : s.scene ≠ [])
    (choice : Choice) (elsewhere : s.state game ≠ .choiceGated) :
    s.select game choice = s.idle := by
  have away : ¬ s.atGate = true := fun gate =>
    elsewhere ((h.state_eq_choiceGated_iff entered).mpr gate)
  cases selection_select game choice s with
  | ignored away eq => exact eq
  | effectFailed gate => exact absurd gate away
  | endingFailed gate => exact absurd gate away
  | staged gate => exact absurd gate away

/-- A text is staged unless it is empty. -/
theorem isSome_nonempty (text : Text) : (Staging.nonempty text).isSome = true ↔ text ≠ [] := by
  cases text <;> simp [Staging.nonempty]

/-- **A choice that was carried out** leads to its response, or else to its destination, or else
nowhere. -/
theorem Standing.state_chosen (h : Standing game s) (entered : s.scene ≠ [])
    (gate : s.atGate = true) (choice : Choice) (scene : Text) (source : Source) :
    (s.chosen game choice scene source).state game =
      if choice.response ≠ [] then .responseStaged
      else if scene ≠ [] then .transitionStaged
      else .choiceGated := by
  have stands := h.chosen gate choice scene source
  have atLine := ((atGate_iff s).mp gate).2
  simp only [← isSome_nonempty]
  exact stands.state_of_gate entered atLine

theorem Standing.select_gated (h : Standing game s) (entered : s.scene ≠ []) (choice : Choice)
    (gated : s.state game = .choiceGated) (returns : (s.select game choice).fault = none) :
    ∃ scene source, (s.recorded game choice).destination game choice = .ok (scene, source) ∧
      (s.select game choice).session.state game =
        if choice.response ≠ [] then .responseStaged
        else if scene ≠ [] then .transitionStaged
        else .choiceGated := by
  cases selection_select game choice s with
  | ignored away eq =>
    have gate := (h.state_eq_choiceGated_iff entered).mp gated
    simp [gate] at away
  | effectFailed gate fault broken eq => simp [eq, failed] at returns
  | endingFailed gate fault applied broken eq => simp [eq, failed] at returns
  | staged gate scene source applied resolved eq =>
    refine ⟨scene, source, resolved, ?_⟩
    rw [eq, notify_eq, state_told, h.state_chosen entered gate]

/-! ## 5. Finishing a transition -/

theorem complete_of_no_destination (free : s.staging.destination = none) :
    s.complete game = s.idle := by
  cases completion_complete game s with
  | nothing _ eq => exact eq
  | entered scene staged named eq => simp [free] at staged

theorem Standing.complete_enters (h : Standing game s) (entered : s.scene ≠ []) (scene : Text)
    (destination : s.staging.destination = some scene) :
    (s.state game = .responseStaged ∨ s.state game = .transitionStaged) ∧
      (s.complete game).session.scene = scene ∧
      (s.complete game).session.lines = game.story.linesOf scene ∧
      (s.complete game).session.index = 0 ∧
      (s.complete game).session.staging = .clear ∧
      (s.complete game).session.state game ∈ [State.playing, .choiceGated, .terminal] := by
  have staged : s.staging.isStaged = true := by
    rw [h.unambiguous.isStaged_eq, destination, Option.isSome_some, Bool.or_true]
  refine ⟨(h.isStaged_iff entered).mp staged, ?_⟩
  cases completion_complete game s with
  | nothing free eq =>
    rw [Staging.present_eq_isSome h.unambiguous.destination, destination] at free
    contradiction
  | entered other staged named eq =>
    obtain rfl : scene = other := Option.some.inj (destination.symm.trans staged)
    rw [eq, goTo_eq, notify_eq, state_told]
    refine ⟨rfl, rfl, rfl, rfl, ?_⟩
    exact (standing_arrival game scene s).state_mem_of_free named rfl

/-! ## 6. The table is followed -/

theorem advance_scene (s : Session) : s.advance.session.scene = s.scene := by
  cases reading_advance s with
  | gated gate eq => rw [eq]; rfl
  | acknowledged away staged eq => rw [eq]; rfl
  | next away free more eq => rw [eq]; rfl
  | last away free done eq => rw [eq]; rfl

theorem select_scene (choice : Choice) (s : Session) :
    (s.select game choice).session.scene = s.scene := by
  cases selection_select game choice s with
  | ignored away eq => rw [eq]; rfl
  | effectFailed gate fault broken eq => rw [eq]; rfl
  | endingFailed gate fault applied broken eq => rw [eq]; rfl
  | staged gate scene source applied resolved eq => rw [eq]; rfl

theorem complete_scene_ne (entered : s.scene ≠ []) : (s.complete game).session.scene ≠ [] := by
  cases completion_complete game s with
  | nothing free eq => rw [eq]; exact entered
  | entered scene staged named eq => rw [eq, goTo_eq]; exact named

theorem Standing.terminal_absorbs (h : Standing game s) (entered : s.scene ≠ [])
    (choice : Choice) (terminal : s.state game = .terminal) :
    s.advance.session.state game = .terminal ∧
      (s.select game choice).session.state game = .terminal ∧
      (s.complete game).session.state game = .terminal := by
  refine ⟨?_, ?_, ?_⟩
  · rw [h.advance_waits entered (by simp [terminal]), terminal]
  · rw [h.select_elsewhere entered choice (by simp [terminal])]
    exact terminal
  · cases destination : s.staging.destination with
    | none =>
      rw [complete_of_no_destination destination]
      exact terminal
    | some scene =>
      rcases (h.complete_enters entered scene destination).1 with hs | hs <;>
        simp [hs] at terminal

theorem Standing.followsTable (h : Standing game s) (entered : s.scene ≠ []) (choice : Choice) :
    FollowsTable game choice s where
  advance_waits := h.advance_waits entered
  advance_response := h.advance_response entered
  advance_playing := h.advance_playing entered
  select_elsewhere := h.select_elsewhere entered choice
  select_gated := h.select_gated entered choice
  complete_idle := complete_of_no_destination
  complete_enters := h.complete_enters entered
  advance_started := by rwa [Ne, state_eq_notStarted_iff, advance_scene]
  select_started := by rwa [Ne, state_eq_notStarted_iff, select_scene]
  complete_started := by
    rw [Ne, state_eq_notStarted_iff]
    exact complete_scene_ne entered
  terminal_absorbs := h.terminal_absorbs entered choice

/-- **The states follow their table** in every session that was entered, whatever was done to it
before, and for every choice. -/
theorem followsTable_after (game : Game) (source : Source) (steps : List Step) (choice : Choice)
    (entered : ((fresh source).after game steps).scene ≠ []) :
    FollowsTable game choice ((fresh source).after game steps) :=
  (standing_of_run game source steps).followsTable entered choice

/-- At the fork of the road, where a choice is about to be made. -/
theorem followsTable_at_fork :
    let s := (fresh .constant).after crossroads [.command .start, .command .advance]
    s.scene ≠ [] ∧ s.state crossroads = .choiceGated ∧ FollowsTable crossroads goingOn s :=
  ⟨by decide +kernel, by decide +kernel,
    followsTable_after crossroads .constant [.command .start, .command .advance] goingOn
      (by decide +kernel)⟩

end Gamebook.Session

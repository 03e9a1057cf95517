/-
# Where a session stands

The cached lines, the index and what is staged are three fields that every command writes
separately.  This file settles that they never drift apart: `Standing` says what holds of them
together, and `standing_after` that it holds of every session after whatever was done to it.

The argument has one half for each kind of command.

* `goTo`, `start` and `load` **establish** the invariant whatever the session was before: each of
  them writes the lines of its scene, an index among them, and clears the staging.
* `advance`, `select` and `complete` **preserve** it.  Only `advance` moves the index without
  leaving the scene, and it does so only with nothing staged; only `select` stages, and it does so
  only at a gate.  So what is staged always belongs to the gate that the reader stands at.

Runs are lists of `Step`s: the commands, and whatever else may happen to a session from outside
between two of them.  A step that is broken off by a fault is a step like any other; the session
that it leaves is the one that the next step finds.
-/
import Gamebook.Proofs.Session.Moves

namespace Gamebook

/-! ## 1. Staging -/

namespace Staging

/-- **What is staged can be read in one way only**: neither the response nor the destination is
an empty text. -/
structure Unambiguous (staging : Staging) : Prop where
  response : staging.response ≠ some []
  destination : staging.destination ≠ some []

/-- Whether a text is there and whether it is there and not empty is the same question, unless it
is the empty text. -/
theorem present_eq_isSome {text : Option Text} (h : text ≠ some []) :
    present text = text.isSome := by
  match text with
  | none => rfl
  | some [] => exact absurd rfl h
  | some (_ :: _) => rfl

theorem nonempty_ne (text : Text) : nonempty text ≠ some [] := by
  cases text <;> simp [nonempty]

theorem bind_nonempty_ne (text : Option Text) : text.bind nonempty ≠ some [] := by
  cases text with
  | none => simp
  | some text => exact nonempty_ne text

/-- With nothing ambiguous staged, something is staged as soon as one of the two texts is there. -/
theorem Unambiguous.isStaged_eq {staging : Staging} (h : staging.Unambiguous) :
    staging.isStaged = (staging.response.isSome || staging.destination.isSome) := by
  rw [isStaged, next, present_eq_isSome h.response, present_eq_isSome h.destination]
  cases staging.response.isSome <;> cases staging.destination.isSome <;> rfl

theorem unambiguous_clear : clear.Unambiguous := ⟨nofun, nofun⟩

theorem unambiguous_stage (destination : Text) (response : Option Text) :
    (stage destination response).Unambiguous :=
  ⟨bind_nonempty_ne response, nonempty_ne destination⟩

theorem Unambiguous.acknowledge {staging : Staging} (h : staging.Unambiguous) :
    staging.acknowledge.Unambiguous :=
  ⟨nofun, h.destination⟩

/-- Putting a response aside stages nothing that was not staged before. -/
theorem isStaged_of_acknowledge {staging : Staging} (h : staging.acknowledge.isStaged = true) :
    staging.isStaged = true := by
  unfold isStaged next acknowledge at *
  cases present staging.response
  · exact h
  · rfl

end Staging

namespace Session

/-! ## 2. The invariant -/

/-- **The invariant of a session** in a game: its lines, its index and its staging fit together. -/
structure Standing (game : Game) (s : Session) : Prop where
  /-- The lines are those of the scene, or the session stands nowhere. -/
  cached : s.lines = game.story.linesOf s.scene ∨ (s.scene = [] ∧ s.lines = [])
  /-- The index is the place of a line, if there are lines. -/
  inside : s.lines ≠ [] → s.index < s.lines.length
  /-- Without lines the index is zero. -/
  unread : s.lines = [] → s.index = 0
  unambiguous : s.staging.Unambiguous
  /-- Whatever is staged was staged at a gate, and the reader still stands at it. -/
  gated : s.staging.isStaged = true → ∃ line, s.line? = some line ∧ line.isGate = true

variable {game : Game}

/-- A fresh session stands nowhere. -/
theorem standing_fresh (source : Source) : Standing game (fresh source) where
  cached := .inr ⟨rfl, rfl⟩
  inside := fun h => absurd rfl h
  unread := fun _ => rfl
  unambiguous := Staging.unambiguous_clear
  gated := nofun

/-- Something is staged exactly when the reader is shown a response or waits for a transition. -/
theorem Standing.isStaged_eq {s : Session} (h : Standing game s) :
    s.staging.isStaged = (s.showsResponse || s.awaitsTransition) := by
  rw [h.unambiguous.isStaged_eq]
  unfold showsResponse awaitsTransition
  cases s.staging.response <;> cases s.staging.destination <;> rfl

/-- Listeners have no part in the invariant. -/
theorem Standing.told {s : Session} (h : Standing game s) : Standing game s.told :=
  ⟨h.cached, h.inside, h.unread, h.unambiguous, h.gated⟩

/-- Nor have the store, the history, the flag of the ending and the source. -/
theorem Standing.of_place {s t : Session} (h : Standing game s) (scene : t.scene = s.scene)
    (lines : t.lines = s.lines) (index : t.index = s.index) (staging : t.staging = s.staging) :
    Standing game t := by
  obtain ⟨cached, inside, unread, unambiguous, gated⟩ := h
  simp only [line?] at gated
  rw [← scene, ← lines] at cached
  rw [← lines, ← index] at inside unread gated
  rw [← staging] at unambiguous gated
  exact ⟨cached, inside, unread, unambiguous, gated⟩

/-! ## 3. The commands that enter a scene establish it -/

theorem standing_arrival (game : Game) (scene : Text) (s : Session) :
    Standing game (s.arrival game scene) where
  cached := .inl rfl
  inside := fun h => List.length_pos_iff.mpr h
  unread := fun _ => rfl
  unambiguous := Staging.unambiguous_clear
  gated := nofun

theorem standing_goTo (game : Game) (scene : Text) (s : Session) :
    Standing game (s.goTo game scene).session := by
  rw [goTo_eq]
  exact (standing_arrival game scene s).told

theorem standing_renewed (game : Game) (s : Session) : Standing game (s.renewed game) where
  cached := .inr ⟨rfl, rfl⟩
  inside := fun h => absurd rfl h
  unread := fun _ => rfl
  unambiguous := Staging.unambiguous_clear
  gated := nofun

theorem standing_start (game : Game) (s : Session) : Standing game (s.start game).session := by
  cases beginning_start game s with
  | atScene first rest scenes eq =>
    rw [eq]
    exact standing_goTo game first.id (s.renewed game)
  | nowhere scenes eq =>
    rw [eq]
    exact (standing_renewed game s).told

/-- A clamped index is the place of a line, if there are lines. -/
theorem clampIndex_lt (index : Int) {lines : List Line} (h : lines ≠ []) :
    clampIndex index lines < lines.length := by
  have := List.length_pos_iff.mpr h
  unfold clampIndex
  omega

theorem clampIndex_nil (index : Int) : clampIndex index [] = 0 := by
  simp [clampIndex]

/-- **Taking a save up is safe whatever the save says**: a wild index is clamped into the scene. -/
theorem standing_load (game : Game) (save : Save) (s : Session) :
    Standing game (s.load game save).session := by
  rw [load_eq]
  refine Standing.told ⟨.inl rfl, fun h => clampIndex_lt save.index h, ?_,
    Staging.unambiguous_clear, nofun⟩
  intro h
  simp only [resumed] at h ⊢
  rw [h, clampIndex_nil]

/-! ## 4. The other commands preserve it -/

theorem Standing.acknowledged {s : Session} (h : Standing game s) :
    Standing game s.acknowledged :=
  ⟨h.cached, h.inside, h.unread, h.unambiguous.acknowledge,
    fun staged => h.gated (Staging.isStaged_of_acknowledge staged)⟩

/-- The index moves only while nothing is staged, so that no gate is left behind. -/
theorem Standing.turned {s : Session} (h : Standing game s) (free : s.staging.isStaged = false)
    (more : s.index + 1 < s.lines.length) : Standing game s.turned := by
  refine ⟨h.cached, fun _ => more, ?_, h.unambiguous, ?_⟩
  · intro none
    have none : s.lines = [] := none
    simp [none] at more
  · intro staged
    have staged : s.staging.isStaged = true := staged
    simp [free] at staged

theorem Standing.recorded {s : Session} (h : Standing game s) (choice : Choice) :
    Standing game (s.recorded game choice) :=
  h.of_place rfl rfl rfl rfl

theorem Standing.chosen {s : Session} (h : Standing game s) (gate : s.atGate = true)
    (choice : Choice) (scene : Text) (source : Source) :
    Standing game (s.chosen game choice scene source) :=
  ⟨h.cached, h.inside, h.unread, Staging.unambiguous_stage scene (some choice.response),
    fun _ => ((atGate_iff s).mp gate).2⟩

theorem Standing.advance {s : Session} (h : Standing game s) :
    Standing game s.advance.session := by
  cases reading_advance s with
  | gated gate eq => rw [eq]; exact h
  | acknowledged away staged eq => rw [eq]; exact h.acknowledged.told
  | next away free more eq => rw [eq]; exact (h.turned free more).told
  | last away free done eq => rw [eq]; exact h

theorem Standing.select {s : Session} (h : Standing game s) (choice : Choice) :
    Standing game (s.select game choice).session := by
  cases selection_select game choice s with
  | ignored away eq => rw [eq]; exact h
  | effectFailed gate fault broken eq => rw [eq]; exact h.recorded choice
  | endingFailed gate fault applied broken eq => rw [eq]; exact h.recorded choice
  | staged gate scene source applied resolved eq =>
    rw [eq]
    exact (h.chosen gate choice scene source).told

theorem Standing.complete {s : Session} (h : Standing game s) :
    Standing game (s.complete game).session := by
  cases completion_complete game s with
  | nothing free eq => rw [eq]; exact h
  | entered scene staged named eq => rw [eq]; exact standing_goTo game scene s

/-- Whoever stands well completes a transition as soon as a destination is there. -/
theorem Standing.complete_of_staged {s : Session} (h : Standing game s) {scene : Text}
    (staged : s.staging.destination = some scene) : s.complete game = s.goTo game scene := by
  cases completion_complete game s with
  | nothing free eq =>
    rw [Staging.present_eq_isSome h.unambiguous.destination, staged] at free
    contradiction
  | entered other staged' named eq =>
    obtain rfl : scene = other := Option.some.inj (staged.symm.trans staged')
    exact eq

/-- **Every command keeps the invariant**, whether or not it is broken off by a fault. -/
theorem Standing.run {s : Session} (h : Standing game s) (command : Command) :
    Standing game (command.run game s).session := by
  cases command with
  | start => exact standing_start game s
  | advance => exact h.advance
  | select choice => exact h.select choice
  | complete => exact h.complete
  | goTo scene => exact standing_goTo game scene s
  | load save => exact standing_load game save s

end Session

/-! ## 5. Runs -/

/-- What may happen to a session: a command, or something from outside between two commands. -/
inductive Step where
  | command (command : Command)
  /-- An effect is carried out on the variables, past the commands. -/
  | effect (text : Text)
  /-- The variables are replaced. -/
  | restore (store : Store)
  | listen (listener : Listener)
  | unlisten (handle : Nat)
  /-- Someone else who shares the source took draws from it, or put another in its place. -/
  | redraw (source : Source)

/-- The session that a step leaves. -/
def Step.apply (game : Game) : Step → Session → Session
  | .command c, s => (c.run game s).session
  | .effect text, s => { s with store := (Effect.apply text s.store).1 }
  | .restore store, s => { s with store }
  | .listen listener, s => { s with listeners := s.listeners.add listener }
  | .unlisten handle, s => { s with listeners := s.listeners.remove handle }
  | .redraw source, s => { s with source }

namespace Session

variable {game : Game}

/-- The session after some steps. -/
def after (game : Game) (s : Session) (steps : List Step) : Session :=
  steps.foldl (fun s step => step.apply game s) s

/-- **Induction along a run**: what holds at its beginning and is kept by every step holds at its
end. -/
theorem after_induction {P : Session → Prop} {s : Session} (begins : P s)
    (keeps : ∀ s step, P s → P (Step.apply game step s)) (steps : List Step) :
    P (s.after game steps) := by
  induction steps generalizing s with
  | nil => exact begins
  | cons step rest ih => exact ih (keeps s step begins)

theorem Standing.apply {s : Session} (h : Standing game s) (step : Step) :
    Standing game (step.apply game s) := by
  cases step with
  | command command => exact h.run command
  | effect text => exact h.of_place rfl rfl rfl rfl
  | restore store => exact h.of_place rfl rfl rfl rfl
  | listen listener => exact h.of_place rfl rfl rfl rfl
  | unlisten handle => exact h.of_place rfl rfl rfl rfl
  | redraw source => exact h.of_place rfl rfl rfl rfl

theorem standing_of_run (game : Game) (source : Source) (steps : List Step) :
    Standing game ((fresh source).after game steps) :=
  after_induction (standing_fresh source) (fun _ step h => h.apply step) steps

/-- **After every run the session stands well.**  And since nothing empty is ever staged, it does
not matter whether a text is asked to be there or to be there and not empty: what the staging
says is next, what `complete` looks for and what a reader is shown always agree. -/
theorem standing_after (game : Game) (source : Source) (steps : List Step) :
    let s := (fresh source).after game steps
    Standing game s ∧
      Staging.present s.staging.response = s.staging.response.isSome ∧
      Staging.present s.staging.destination = s.staging.destination.isSome ∧
      (s.staging.next = .response ↔ s.showsResponse = true) ∧
      (s.staging.next = .transition ↔ s.awaitsTransition = true) ∧
      s.staging.isStaged = (s.showsResponse || s.awaitsTransition) := by
  intro s
  have h : Standing game s := standing_of_run game source steps
  have hr := Staging.present_eq_isSome h.unambiguous.response
  have hd := Staging.present_eq_isSome h.unambiguous.destination
  refine ⟨h, hr, hd, ?_, ?_, h.isStaged_eq⟩ <;>
    simp only [Staging.next, showsResponse, awaitsTransition, hr, hd] <;>
    cases s.staging.response <;> cases s.staging.destination <;> simp

end Session

/-! ## 6. A story to look at

A road with a guide and a fork, at which one may go on, to whatever ending the variables call
for, or wait and come back to it with more courage. -/

/-- Going on: needs courage, is told of, and leads to an ending. -/
def goingOn : Choice where
  group := "fork"
  text := "Go on"
  condition := "courage>=1"
  effect := "risk+2"
  destination := endingMark
  response := "You go on."

/-- Waiting: leads back to the start of the road. -/
def waiting : Choice where
  group := "fork"
  text := "Wait"
  effect := "courage+1"
  destination := "road"

def crossroads : Game where
  story :=
    { scenes := ["road", "end_good", "end_neutral", "end_bad", "end_death"].map fun id =>
        { id := Text.ofString id }
      lines :=
        [{ id := 1, scene := "road", speaker := "guide", text := "Here we part." },
          { id := 2, scene := "road", speaker := "→CHOICE:fork" },
          { id := 3, scene := "end_bad", speaker := "", text := "The road ends." }]
      choices := [goingOn, waiting]
      characters := [{ id := "guide", name := "Guide" }]
      variableDefs := [{ name := "courage", initial := "1" }, { name := "risk" }] }
  config := {}

end Gamebook

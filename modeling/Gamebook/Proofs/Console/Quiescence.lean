/-
# The end of a story is where nothing moves

`Session.atEnd` is a test of five things: the line, its place, the gate, the response and the
destination.  This file settles that it asks exactly whether a reader can still do anything, and
that consoles stop exactly then (`ends_in_time`).

* **Sessions.**  At the end all three commands of a reader leave a session as it is
  (`Standing.idle_of_atEnd`).  Anywhere else one of them moves it: a staged response can be put
  aside, a staged destination can be entered, at a gate every choice is at least recorded, and
  otherwise there is a further line.
* **Invariant.**  Both directions need that a session stands well.  Something staged without a line
  would be an end that moves, and an empty text that is staged would be neither an end nor movable.
* **Consoles.**  A round stops at the end and nowhere else (`pause_of_halt`); one that runs a
  transition has its session still to be moved.
-/
import Gamebook.Proofs.Console.Rounds
import Gamebook.Proofs.Session.History

namespace Gamebook

namespace Session

variable {game : Game} {s t : Session}

/-! ## 1. Sessions that nothing moves -/

/-- A session was not moved: what a reader can change of it is what it was. -/
structure Unmoved (s t : Session) : Prop where
  scene : t.scene = s.scene
  index : t.index = s.index
  staging : t.staging = s.staging
  history : t.history = s.history
  store : t.store = s.store

/-- **No command of a reader moves a session**, no choice at all among them. -/
structure Quiescent (game : Game) (s : Session) : Prop where
  advance : Unmoved s s.advance.session
  complete : Unmoved s (s.complete game).session
  select : ∀ choice : Choice, Unmoved s (s.select game choice).session

theorem Unmoved.refl (s : Session) : Unmoved s s := ⟨rfl, rfl, rfl, rfl, rfl⟩

/-- **Where the end is**: nothing is staged, there is no gate, and no further line. -/
theorem Standing.atEnd_iff (h : Standing game s) :
    s.atEnd = true ↔
      s.staging.isStaged = false ∧ s.atGate = false ∧ s.lines.length ≤ s.index + 1 := by
  have staged := h.isStaged_eq
  cases line : s.line? with
  | none =>
    have free : s.staging.isStaged = false := by
      refine Bool.eq_false_iff.mpr fun staged => ?_
      obtain ⟨gate, here, -⟩ := h.gated staged
      rw [line] at here
      contradiction
    have away : s.atGate = false := by simp [atGate, line]
    have last : s.lines.length ≤ s.index := List.getElem?_eq_none_iff.mp line
    have ended : s.atEnd = true := by simp [atEnd, line]
    exact iff_of_true ended ⟨free, away, by omega⟩
  | some here =>
    have inside : s.index < s.lines.length := (List.getElem?_eq_some_iff.mp line).1
    rw [staged]
    simp only [atEnd, line, Option.isNone_some, Bool.false_or, Bool.and_eq_true, beq_iff_eq,
      Bool.not_eq_true', Bool.or_eq_false_iff]
    constructor
    · rintro ⟨⟨⟨last, away⟩, silent⟩, settled⟩
      exact ⟨⟨silent, settled⟩, away, by omega⟩
    · rintro ⟨⟨silent, settled⟩, away, last⟩
      exact ⟨⟨⟨by omega, away⟩, silent⟩, settled⟩

/-- With nothing staged there is no transition to complete. -/
theorem Standing.destination_of_free (h : Standing game s) (free : s.staging.isStaged = false) :
    s.staging.destination = none := by
  rw [h.unambiguous.isStaged_eq, Bool.or_eq_false_iff] at free
  exact Option.not_isSome_iff_eq_none.mp (by simp [free.2])

/-- **At the end every command of a reader is passed over.** -/
theorem Standing.idle_of_atEnd (h : Standing game s) (ended : s.atEnd = true) :
    s.advance = s.idle ∧ s.complete game = s.idle ∧
      ∀ choice, s.select game choice = s.idle := by
  obtain ⟨free, away, last⟩ := h.atEnd_iff.mp ended
  refine ⟨?_, ?_, select_away away⟩
  · rw [advance_eq, away, free, if_neg Bool.false_ne_true, if_neg Bool.false_ne_true,
      if_neg (Nat.not_lt.mpr last)]
  · rw [complete_eq, h.destination_of_free free]
    rfl

/-! ## 2. Anywhere else something moves -/

/-- **At a gate every choice is recorded**, also one that a fault breaks off. -/
theorem not_unmoved_of_gate (gate : s.atGate = true) (choice : Choice) :
    ¬ Unmoved s (s.select game choice).session := by
  intro unmoved
  have longer : (s.select game choice).session.history =
      s.history ++ [s.record game choice] :=
    (history_run game (.select choice) s).trans (if_pos gate)
  have same := unmoved.history
  rw [longer] at same
  simp at same

/-- A response that is staged can be put aside. -/
theorem Standing.not_unmoved_of_response (h : Standing game s) {response : Text}
    (staged : s.staging.response = some response) : ¬ Unmoved s s.advance.session := by
  intro unmoved
  have full : s.staging.isStaged = true := by
    rw [h.unambiguous.isStaged_eq, staged]
    rfl
  have away : s.atGate = false := by simp [atGate, full]
  have read : s.advance = s.acknowledged.notify [] := by
    rw [advance_eq, away, if_neg Bool.false_ne_true, if_pos full]
  have same : s.staging.acknowledge = s.staging := by
    have same := unmoved.staging
    rw [read] at same
    exact same
  rw [← same] at staged
  contradiction

/-- A destination that is staged can be entered. -/
theorem Standing.not_unmoved_of_destination (h : Standing game s) {scene : Text}
    (staged : s.staging.destination = some scene) : ¬ Unmoved s (s.complete game).session := by
  intro unmoved
  have cleared := unmoved.staging
  rw [h.complete_of_staged staged, goTo_eq] at cleared
  rw [← cleared] at staged
  contradiction

/-- A further line can be read. -/
theorem not_unmoved_of_more (away : s.atGate = false) (free : s.staging.isStaged = false)
    (more : s.index + 1 < s.lines.length) : ¬ Unmoved s s.advance.session := by
  intro unmoved
  have next : s.advance = s.turned.notify [] := by
    rw [advance_eq, away, free, if_neg Bool.false_ne_true, if_neg Bool.false_ne_true,
      if_pos more]
  have same : s.index + 1 = s.index := by
    have same := unmoved.index
    rw [next] at same
    exact same
  omega

/-- **The end is where nothing moves**, for a session that stands well. -/
theorem Standing.atEnd_iff_quiescent (h : Standing game s) :
    s.atEnd = true ↔ Quiescent game s := by
  constructor
  · intro ended
    obtain ⟨advance, complete, select⟩ := h.idle_of_atEnd ended
    refine ⟨?_, ?_, fun choice => ?_⟩
    · rw [advance]
      exact .refl s
    · rw [complete]
      exact .refl s
    · rw [select choice]
      exact .refl s
  · intro quiet
    have away : s.atGate = false :=
      Bool.eq_false_iff.mpr fun gate => not_unmoved_of_gate gate default (quiet.select default)
    have silent : s.staging.response = none :=
      Option.eq_none_iff_forall_ne_some.mpr fun _ staged =>
        h.not_unmoved_of_response staged quiet.advance
    have settled : s.staging.destination = none :=
      Option.eq_none_iff_forall_ne_some.mpr fun _ staged =>
        h.not_unmoved_of_destination staged quiet.complete
    have free : s.staging.isStaged = false := by
      rw [h.unambiguous.isStaged_eq, silent, settled]
      rfl
    have last : s.lines.length ≤ s.index + 1 :=
      Nat.not_lt.mp fun more => not_unmoved_of_more away free more quiet.advance
    exact h.atEnd_iff.mpr ⟨free, away, last⟩

/-- **A session stands well whatever happens to it**, calls with a document among them. -/
theorem standing_through (game : Game) (source : Source) (listeners : Listeners)
    (events : List Event) :
    Standing game ({ fresh source with listeners }.through game events) := by
  induction events using List.reverseRecOn with
  | nil => exact (standing_fresh source).of_place rfl rfl rfl rfl
  | append_singleton past event ih =>
    rw [through_concat]
    cases event with
    | step taken => exact ih.apply taken
    | call asked =>
      cases asks : (Event.call asked).command? with
      | none =>
        rw [Event.apply_of_refused asks]
        exact ih
      | some command =>
        rw [Event.apply_of_command asks]
        exact ih.run command

end Session

/-! ## 3. Consoles -/

namespace Console

open Session

variable {c d : Console} {pause : Pause}

/-- **Where a round stops**, by the end and by the ending. -/
theorem pause_of_halt (done : c.halt = .ok (d, pause)) :
    (c.session.atEnd = false → ∃ choices, pause = .command choices) ∧
      (c.session.atEnd = true → c.session.inEnding c.game = true → pause = .again) ∧
      (c.session.atEnd = true → c.session.inEnding c.game = false →
        pause = .done ∧ d = (c.sayAll ["", "The story stops here."]).leave.1) := by
  unfold halt at done
  cases read : c.session.atEnd with
  | false =>
    rw [read, if_neg Bool.false_ne_true] at done
    refine ⟨fun _ => ?_, nofun, nofun⟩
    split at done
    · cases done
      exact ⟨_, rfl⟩
    · cases done
      exact ⟨_, rfl⟩
  | true =>
    rw [read, if_pos rfl] at done
    refine ⟨nofun, fun _ ending => ?_, fun _ elsewhere => ?_⟩
    · rw [if_pos ending] at done
      obtain ⟨e, -, rest⟩ := bind_ok_iff.mp done
      cases rest
      rfl
    · rw [elsewhere, if_neg Bool.false_ne_true] at done
      cases done
      exact ⟨rfl, rfl⟩

/-- **Which pause a round of a session comes to**, if it does not run a transition. -/
theorem Ready.pause_iff (h : Ready c) (done : c.halt = .ok (d, pause)) :
    (pause = .again ↔ Quiescent c.game c.session ∧ c.session.inEnding c.game = true) ∧
      (pause = .done ↔ Quiescent c.game c.session ∧ c.session.inEnding c.game = false) ∧
      ((∃ choices, pause = .command choices) ↔ ¬ Quiescent c.game c.session) := by
  rw [← h.standing.atEnd_iff_quiescent]
  obtain ⟨unread, ending, elsewhere⟩ := pause_of_halt done
  cases read : c.session.atEnd with
  | false =>
    obtain ⟨choices, rfl⟩ := unread read
    simp
  | true =>
    cases inside : c.session.inEnding c.game with
    | true =>
      obtain rfl := ending read inside
      simp
    | false =>
      obtain ⟨rfl, -⟩ := elsewhere read inside
      simp

/-- A session with a transition to run is not at its end. -/
theorem Steady.not_quiescent (h : Steady c) (crosses : c.crosses = true) :
    ¬ Quiescent c.game c.session := by
  intro quiet
  obtain ⟨-, awaits⟩ := Bool.and_eq_true_iff.mp crosses
  obtain ⟨staged, -⟩ := Bool.and_eq_true_iff.mp awaits
  obtain ⟨scene, staged⟩ := Option.isSome_iff_exists.mp staged
  exact h.standing.not_unmoved_of_destination staged quiet.complete

/-- What is seen when a story stops. -/
def lastWords : List Text := ["", "The story stops here.", "", "Goodbye."]

theorem told_append (first second : List Text) :
    told (first ++ second) = told first ++ told second :=
  List.map_append

theorem lastWords_of_leave (c : Console) :
    (c.sayAll ["", "The story stops here."]).leave.1.transcript.toList =
      c.transcript.toList ++ told lastWords := by
  rw [leave, toList_sayAll, toList_sayAll, List.append_assoc, ← told_append]
  rfl

end Console

namespace Phase

open Console Session

/-- **A console ends its sessions in time**: each round that is reached, with whatever is typed,
comes to the pause that its session calls for. -/
structure EndsInTime (c : Console) (lines : List String) : Prop where
  /-- A round that goes on by itself has a session that moves. -/
  goesOn : ∀ {d e : Console} {rest : List String},
    Reaches (.opening c, lines) (.round d, rest) → d.round = .ok (.round e) →
      ¬ Quiescent d.game d.session
  /-- A round returns at an ending if nothing moves there any more, and only then. -/
  returns : ∀ {d e : Console} {pause : Pause} {rest : List String},
    Reaches (.opening c, lines) (.round d, rest) → d.round = .ok (.paused e pause) →
      (pause = .again ↔ Quiescent d.game d.session ∧ d.session.inEnding d.game = true)
  /-- A story stops if nothing moves and this is no ending, and only then, -/
  stops : ∀ {d e : Console} {pause : Pause} {rest : List String},
    Reaches (.opening c, lines) (.round d, rest) → d.round = .ok (.paused e pause) →
      (pause = .done ↔ Quiescent d.game d.session ∧ d.session.inEnding d.game = false)
  /-- and the player is told. -/
  tells : ∀ {d e : Console} {rest : List String},
    Reaches (.opening c, lines) (.round d, rest) → d.round = .ok (.paused e .done) →
      ∃ earlier, e.transcript.toList = earlier ++ told lastWords
  /-- The player is asked for a command as long as anything moves. -/
  asks : ∀ {d e : Console} {pause : Pause} {rest : List String},
    Reaches (.opening c, lines) (.round d, rest) → d.round = .ok (.paused e pause) →
      ((∃ choices, pause = .command choices) ↔ ¬ Quiescent d.game d.session)

/-- A round that comes to a pause halts with the session that it began with. -/
theorem halt_of_round {d e : Console} {pause : Pause} (h : Steady d)
    (done : d.round = .ok (.paused e pause)) :
    ∃ f : Console, Ready f ∧ f.game = d.game ∧ f.session = d.session ∧
      f.halt = .ok (e, pause) := by
  have stepped : step (.round d, []) = .ok (.paused e pause, []) := by
    simp only [step, done]
    rfl
  cases stepped_of_step stepped with
  | @halted _ f _ _ _ stays refreshed halted =>
    have shows := refresh_shows stays refreshed
    have ready : Ready f := Ready.of_shows (c := { d with outdated := false })
      ⟨h.attached, h.standing⟩ shows
    exact ⟨f, ready, shows.game, shows.session, halted⟩

theorem endsInTime_of_attached {c : Console} (attached : c.Attached) (lines : List String) :
    EndsInTime c lines := by
  have sound : (opening c).Sound := attached
  have steady {d : Console} {rest : List String}
      (path : Reaches (.opening c, lines) (.round d, rest)) : Steady d := sound.reaches path
  have comesTo {d e : Console} {pause : Pause} {rest : List String}
      (path : Reaches (.opening c, lines) (.round d, rest))
      (done : d.round = .ok (.paused e pause)) :
      (pause = .again ↔ Quiescent d.game d.session ∧ d.session.inEnding d.game = true) ∧
        (pause = .done ↔ Quiescent d.game d.session ∧ d.session.inEnding d.game = false) ∧
        ((∃ choices, pause = .command choices) ↔ ¬ Quiescent d.game d.session) := by
    obtain ⟨f, ready, game, session, halted⟩ := halt_of_round (steady path) done
    rw [← game, ← session]
    exact ready.pause_iff halted
  refine ⟨?_, ?_, ?_, ?_, ?_⟩
  · intro d e rest path crossed
    exact (steady path).not_quiescent (crosses_of_round crossed).1
  · intro d e pause rest path done
    exact (comesTo path done).1
  · intro d e pause rest path done
    exact (comesTo path done).2.1
  · intro d e rest path done
    obtain ⟨f, ready, game, session, halted⟩ := halt_of_round (steady path) done
    obtain ⟨quiet, elsewhere⟩ := (ready.pause_iff halted).2.1.mp rfl
    have read := ready.standing.atEnd_iff_quiescent.mpr quiet
    obtain ⟨-, rfl⟩ := (pause_of_halt halted).2.2 read elsewhere
    exact ⟨_, lastWords_of_leave f⟩
  · intro d e pause rest path done
    exact (comesTo path done).2.2

/-- **The end is exactly where nothing moves.**  After whatever calls and whatever else may happen
to a session, it is at its end if and only if reading on, completing and every choice leave it where
it is; and so a console neither stops a story too early nor too late. -/
theorem ends_in_time :
    (∀ (game : Game) (source : Source) (listeners : Listeners) (events : List Event),
      let s := { Session.fresh source with listeners }.through game events
      s.atEnd = true ↔ Quiescent game s) ∧
    ∀ (c : Console) (lines : List String), c.Attached → EndsInTime c lines := by
  constructor
  · intro game source listeners events s
    exact (standing_through game source listeners events).atEnd_iff_quiescent
  · intro c lines attached
    exact endsInTime_of_attached attached lines

/-- The calls of a traveller who goes all the way. -/
def journey : List Event :=
  [.start, .advance, .select goingOn, .advance, .complete].map fun c => .call (.command c)

/-- On the road: up to the end, where nothing moves any more. -/
theorem ends_at_road :
    let s := { Session.fresh .constant with listeners := {} }.through crossroads journey
    s.scene = Text.ofString "end_bad" ∧ Quiescent crossroads s ∧
      EndsInTime atRoad ["", "1", "", "n"] := by
  intro s
  have ended : s.atEnd = true := by decide +kernel
  exact ⟨by decide +kernel, (ends_in_time.1 crossroads .constant {} journey).mp ended,
    ends_in_time.2 atRoad _ (attached_fresh crossroads _ _ _ _ _)⟩

end Phase

end Gamebook

/-
# The loops of a console

A console goes round in two loops: sessions are played one after another, and in each session it
shows what is new and asks for a line, over and over.  `Console.run` folds both over the lines that
are typed.  This file takes the loops apart into single steps (`Phase.step`) and settles that they
come to an end.

* **The invariant.**  `Phase.Sound` says what holds of a console at each place of the loops; every
  step keeps it (`Phase.Sound.step`).  It rests on the invariant of sessions: since nothing empty
  is ever staged, running a transition always leads into a scene with nothing staged.
* **The end.**  A round that asks for nothing only runs a transition, and the next one does not
  (`crosses_of_refresh`).  So each step lowers `Phase.weight`, four for each line that was not
  typed yet.
* **The recursion.**  As many steps as the measure says come to what `Console.run` gives
  (`steps_eq_finish`), so that what is said of the steps is said of runs (`stops_of_attached`).
-/
import Gamebook.Proofs.Console.Talk
import Gamebook.Proofs.Session.States
import Mathlib.Logic.Relation

namespace Gamebook

/-! ## 1. The loops, step by step -/

/-- Where the loops of a console are. -/
inductive Phase where
  /-- A session is about to be started. -/
  | opening (c : Console)
  /-- A round of a session is about to begin. -/
  | round (c : Console)
  /-- The player is asked, or the console is done. -/
  | paused (c : Console) (pause : Pause)

namespace Console

/-- Whether a round has a transition to run. -/
def crosses (c : Console) : Bool := c.outdated && c.session.awaitsTransition

/-- **One round of a session**: what is new is shown.  If that was a transition, the next round
begins at once; otherwise the player is asked, or the session is over. -/
def round (c : Console) : Except Crash Phase := do
  let next ← c.refresh
  if c.crosses then return .round next
  else
    let (last, pause) ← next.halt
    return .paused last pause

end Console

/-- **One step of the loops**, with the lines that are still to be typed. -/
def Phase.step : Phase × List String → Except Crash (Phase × List String)
  | (.opening c, lines) => do return (.round (← c.startSession), lines)
  | (.round c, lines) => do return (← c.round, lines)
  | (.paused c .done, lines) => .ok (.paused c .done, lines)
  | (.paused c pause, []) => .ok (.paused (c.close pause) .done, [])
  | (.paused c (.command choices), line :: rest) => do
    let c := c.note Console.commandPrompt (some line)
    match ← c.react choices line with
    | some next => return (.round next, rest)
    | none => return (.paused c.leave.1 .done, rest)
  | (.paused c .again, line :: rest) =>
    let c := c.note Console.againPrompt (some line)
    if Console.wantsMore line then .ok (.opening c, rest)
    else .ok (.paused (c.say "Goodbye.") .done, rest)

namespace Console

variable {c d : Console}

/-! ## 2. The invariant -/

/-- A console that listens to a session that stands well. -/
structure Ready (c : Console) : Prop where
  attached : c.Attached
  standing : Session.Standing c.game c.session

/-- **A console at the beginning of a round**: a transition that is to be run is not overlooked. -/
structure Steady (c : Console) : Prop extends Ready c where
  settled : c.outdated = false → c.session.awaitsTransition = false

/-- **A console that takes a command**, after it offered some choices. -/
structure Asking (c : Console) (choices : List Choice) : Prop extends Ready c where
  /-- Nothing is left to be shown. -/
  shown : c.outdated = false
  /-- No transition is left half done. -/
  settled : c.session.awaitsTransition = false
  /-- There is something to read or to choose. -/
  unread : c.session.atEnd = false
  offered : choices = if c.session.atGate then c.session.openChoices c.game else []

/-- **A console that asks for a command**: at a gate the choices are the last that was shown. -/
structure Prompting (c : Console) (choices : List Choice) : Prop extends Asking c choices where
  listed : c.session.atGate = true →
    ∃ earlier, c.transcript.toList = earlier ++ told ([] :: numbered choices)

/-- The last thing that was shown is a good-bye. -/
def Farewell (c : Console) : Prop :=
  c.transcript.toList.getLast? = some (.told (.line "Goodbye."))

/-- **A console at a pause.** -/
structure Resting (c : Console) (pause : Pause) : Prop where
  attached : c.Attached
  prompting : ∀ choices, pause = .command choices → Prompting c choices
  farewell : pause = .done → Farewell c

theorem farewell_say (c : Console) : Farewell (c.say "Goodbye.") := by
  simp [Farewell, say, tell]

theorem farewell_leave (c : Console) : Farewell c.leave.1 := farewell_say _

theorem farewell_close (c : Console) {pause : Pause} (asks : pause ≠ .done) :
    Farewell (c.close pause) := by
  cases pause with
  | command choices => exact farewell_leave _
  | again => exact farewell_say _
  | done => exact absurd rfl asks

theorem Ready.of_shows (h : Ready c) (shows : Shows c d) : Ready d where
  attached := h.attached.of_shows shows
  standing := by
    rw [shows.game, shows.session]
    exact h.standing

/-- What is out of date will be shown, so that nothing can be overlooked. -/
theorem Ready.steady (h : Ready c) (outdated : c.outdated = true) : Steady c :=
  ⟨h, fun shown => by rw [outdated] at shown; contradiction⟩

theorem Asking.of_shows {choices : List Choice} (h : Asking c choices) (shows : Shows c d) :
    Asking d choices where
  toReady := h.toReady.of_shows shows
  shown := shows.outdated.trans h.shown
  settled := by
    rw [shows.session]
    exact h.settled
  unread := by
    rw [shows.session]
    exact h.unread
  offered := by
    rw [shows.session, shows.game]
    exact h.offered

theorem Ready.of_performed (h : Ready c) {command : Command} (p : Performed command c d) :
    Ready d where
  attached := p.attached
  standing := by
    rw [p.game, p.session]
    exact h.standing.run command

theorem Ready.of_acts (h : Ready c) (acts : Acts c d) : Ready d := by
  induction acts with
  | shows shows => exact h.of_shows shows
  | performs command done => exact h.of_performed (h.attached.performed done)
  | trans _ _ first last => exact last (first h)

/-- **Whatever is typed, no transition is overlooked**, since every change is noticed. -/
theorem Steady.of_acts (h : Steady c) (acts : Acts c d) : Steady d where
  toReady := h.toReady.of_acts acts
  settled := fun shown => by
    obtain ⟨shown, same⟩ := (acts.unnoticed h.attached).2 shown
    rw [same]
    exact h.settled shown

/-! ## 3. Showing what is new -/

/-- **Crossing leads into the staged scene**, and that is noticed. -/
theorem Ready.cross (h : Ready c) {scene : Text}
    (staged : c.session.staging.destination = some scene) :
    ∃ d, c.cross = .ok d ∧ Ready d ∧ d.outdated = true ∧
      d.session = (c.session.goTo c.game scene).session := by
  obtain ⟨before, shows, opened⟩ := cross_of_some staged
  have run : Command.complete.run before.game before.session = c.session.goTo c.game scene := by
    rw [shows.game, shows.session]
    exact h.standing.complete_of_staged staged
  have sound : (Command.complete.run before.game before.session).fault = none := by
    rw [run, Session.goTo_eq]
    rfl
  obtain ⟨d, done⟩ := before.perform_of_no_fault .complete sound
  have session : d.session = (c.session.goTo c.game scene).session :=
    ((h.attached.of_shows shows).performed done).session.trans (congrArg Outcome.session run)
  have acts := acts_cross (opened.trans done)
  refine ⟨d, opened.trans done, h.of_acts acts, ?_, session⟩
  cases outdated : d.outdated with
  | true => rfl
  | false =>
    -- The scene was staged and is not any more, so the session is another one.
    have same := ((acts.unnoticed h.attached).2 outdated).2
    rw [same, Session.goTo_eq] at session
    rw [session] at staged
    contradiction

theorem refresh_of_shown (shown : c.outdated = false) : c.refresh = .ok c := by
  unfold refresh
  rw [shown]
  rfl

/-- Showing begins with the header; what comes next is for the staging to say. -/
theorem refresh_of_outdated (outdated : c.outdated = true) (done : c.refresh = .ok d) :
    ∃ e, Shows { c with outdated := false } e ∧
      (match c.session.staging.response with
      | some response => .ok (e.say response)
      | none => if c.session.awaitsTransition then e.cross else .ok e.showLine) = Except.ok d := by
  unfold refresh at done
  rw [outdated] at done
  obtain ⟨e, header, rest⟩ := bind_ok_iff.mp done
  have shows := shows_showHeader header
  rw [shows.session] at rest
  exact ⟨e, shows, rest⟩

/-- A round with a transition to run leads into a scene with nothing staged, which is still to be
shown. -/
theorem Ready.refresh_crosses (h : Ready c) (crosses : c.crosses = true)
    (done : c.refresh = .ok d) :
    Ready d ∧ d.outdated = true ∧ d.session.staging = .clear := by
  obtain ⟨outdated, awaits⟩ := Bool.and_eq_true_iff.mp crosses
  obtain ⟨e, shows, rest⟩ := refresh_of_outdated outdated done
  obtain ⟨staged, unread⟩ := Bool.and_eq_true_iff.mp awaits
  rw [Option.isNone_iff_eq_none.mp unread, awaits] at rest
  obtain ⟨scene, staged⟩ := Option.isSome_iff_exists.mp staged
  have ready : Ready e := Ready.of_shows (c := { c with outdated := false })
    ⟨h.attached, h.standing⟩ shows
  have staged : e.session.staging.destination = some scene := by
    rw [shows.session]
    exact staged
  obtain ⟨f, crossed, ready, noticed, session⟩ := ready.cross staged
  obtain rfl : f = d := Except.ok.inj (crossed.symm.trans rest)
  exact ⟨ready, noticed, by rw [session, Session.goTo_eq]; rfl⟩

/-- The response that is there is shown, or else the current line. -/
def showPlace (c : Console) : Console :=
  match c.session.staging.response with
  | some response => c.say response
  | none => c.showLine

theorem shows_showPlace (c : Console) : Shows c c.showPlace := by
  unfold showPlace
  split
  · exact shows_tell c _
  · exact shows_showLine c

/-- **Any other round with something new shows where the session is**, below the header of its
scene. -/
theorem refresh_eq_showPlace (outdated : c.outdated = true) (stays : c.crosses = false)
    (done : c.refresh = .ok d) :
    ∃ e, Shows { c with outdated := false } e ∧ d = e.showPlace := by
  have here : c.session.awaitsTransition = false := by simpa [crosses, outdated] using stays
  obtain ⟨e, shows, rest⟩ := refresh_of_outdated outdated done
  refine ⟨e, shows, ?_⟩
  rw [here] at rest
  have session : e.session = c.session := shows.session
  unfold showPlace
  rw [session]
  cases response : c.session.staging.response with
  | some response =>
    rw [response] at rest
    exact (Except.ok.inj rest).symm
  | none =>
    rw [response] at rest
    exact (Except.ok.inj rest).symm

theorem refresh_shows (stays : c.crosses = false) (done : c.refresh = .ok d) :
    Shows { c with outdated := false } d := by
  cases outdated : c.outdated with
  | false =>
    rw [refresh_of_shown outdated] at done
    cases done
    exact ⟨rfl, rfl, rfl, outdated⟩
  | true =>
    obtain ⟨e, shows, rfl⟩ := refresh_eq_showPlace outdated stays done
    exact shows.trans (shows_showPlace e)

/-! ## 4. Where a round stops -/

/-- **All that halting can come to.** -/
inductive Halted (c : Console) : Console → Pause → Prop
  | ended {d : Console} (read : c.session.atEnd = true) (shown : c.showEnding = .ok d) :
      Halted c d .again
  | stopped (read : c.session.atEnd = true) :
      Halted c (c.sayAll ["", "The story stops here."]).leave.1 .done
  | choosing (unread : c.session.atEnd = false) (gate : c.session.atGate = true) :
      Halted c (c.showChoices (c.session.openChoices c.game))
        (.command (c.session.openChoices c.game))
  | reading (unread : c.session.atEnd = false) (away : c.session.atGate = false) :
      Halted c c (.command [])

theorem halted_of_halt {pause : Pause} (done : c.halt = .ok (d, pause)) : Halted c d pause := by
  unfold Console.halt at done
  split at done
  · rename_i read
    split at done
    · obtain ⟨e, shown, rest⟩ := bind_ok_iff.mp done
      cases rest
      exact .ended read shown
    · cases done
      exact .stopped read
  · rename_i unread
    have unread : c.session.atEnd = false := by simpa using unread
    split at done
    · rename_i gate
      cases done
      exact .choosing unread gate
    · rename_i away
      cases done
      exact .reading unread (by simpa using away)

theorem shows_halt {pause : Pause} (done : c.halt = .ok (d, pause)) : Shows c d := by
  cases halted_of_halt done with
  | ended read shown => exact shows_showEnding shown
  | stopped read => exact (shows_sayAll c _).trans (shows_leave _)
  | choosing unread gate => exact shows_sayAll c _
  | reading unread away => exact .refl c

/-- **Where a round stops.**  With nothing left to be shown and no transition left to be run, the
console asks for a command, or whether to play again, or it has said good-bye. -/
theorem Ready.halt (h : Ready c) (shown : c.outdated = false)
    (settled : c.session.awaitsTransition = false) {pause : Pause}
    (done : c.halt = .ok (d, pause)) : Resting d pause := by
  have attached := h.attached.of_shows (shows_halt done)
  cases halted_of_halt done with
  | ended read shown => exact ⟨attached, nofun, nofun⟩
  | stopped read => exact ⟨attached, nofun, fun _ => farewell_leave _⟩
  | choosing unread gate =>
    have asking : Asking c (c.session.openChoices c.game) :=
      ⟨h, shown, settled, unread, (if_pos gate).symm⟩
    refine ⟨attached, ?_, nofun⟩
    rintro _ ⟨⟩
    exact ⟨asking.of_shows (shows_sayAll c _), fun _ => ⟨_, toList_sayAll c _⟩⟩
  | reading unread away =>
    have asking : Asking c [] := ⟨h, shown, settled, unread, by simp [away]⟩
    refine ⟨attached, ?_, nofun⟩
    rintro _ ⟨⟩
    exact ⟨asking, fun gate => by rw [away] at gate; contradiction⟩

theorem startSession_ready (h : c.Attached) (done : c.startSession = .ok d) :
    Ready d ∧ d.outdated = true := by
  obtain ⟨e, started, rest⟩ := bind_ok_iff.mp done
  cases rest
  have titled : Shows c { c.showTitle with headed := none } :=
    (shows_sayAll c _).trans (shows_headed _ none)
  have p := (h.of_shows titled).performed started
  refine ⟨⟨p.attached, ?_⟩, rfl⟩
  rw [p.game, p.session]
  exact Session.standing_start _ _

end Console

/-! ## 5. The invariant along the loops -/

namespace Phase

open Console

variable {m n : Phase × List String}

/-- **All that a step can come to**, if it is not broken off by a fault. -/
inductive Stepped : Phase × List String → Phase × List String → Prop
  | opened {c d : Console} {lines : List String} (started : c.startSession = .ok d) :
      Stepped (.opening c, lines) (.round d, lines)
  | crossed {c d : Console} {lines : List String} (crosses : c.crosses = true)
      (refreshed : c.refresh = .ok d) : Stepped (.round c, lines) (.round d, lines)
  | halted {c d e : Console} {pause : Pause} {lines : List String} (stays : c.crosses = false)
      (refreshed : c.refresh = .ok d) (halted : d.halt = .ok (e, pause)) :
      Stepped (.round c, lines) (.paused e pause, lines)
  | stayed {c : Console} {lines : List String} :
      Stepped (.paused c .done, lines) (.paused c .done, lines)
  | closed {c : Console} {pause : Pause} (asks : pause ≠ .done) :
      Stepped (.paused c pause, []) (.paused (c.close pause) .done, [])
  | reacted {c d : Console} {choices : List Choice} {line : String} {rest : List String}
      (done : (c.note commandPrompt (some line)).react choices line = .ok (some d)) :
      Stepped (.paused c (.command choices), line :: rest) (.round d, rest)
  | left {c : Console} {choices : List Choice} {line : String} {rest : List String}
      (quit : (c.note commandPrompt (some line)).react choices line = .ok none) :
      Stepped (.paused c (.command choices), line :: rest)
        (.paused (c.note commandPrompt (some line)).leave.1 .done, rest)
  | renewed {c : Console} {line : String} {rest : List String} (more : wantsMore line = true) :
      Stepped (.paused c .again, line :: rest) (.opening (c.note againPrompt (some line)), rest)
  | ended {c : Console} {line : String} {rest : List String} (done : wantsMore line = false) :
      Stepped (.paused c .again, line :: rest)
        (.paused ((c.note againPrompt (some line)).say "Goodbye.") .done, rest)

theorem stepped_of_step (h : step m = .ok n) : Stepped m n := by
  obtain ⟨phase, lines⟩ := m
  cases phase with
  | opening c =>
    obtain ⟨d, started, rest⟩ := bind_ok_iff.mp h
    cases rest
    exact .opened started
  | round c =>
    obtain ⟨next, played, rest⟩ := bind_ok_iff.mp h
    cases rest
    obtain ⟨d, refreshed, rest⟩ := bind_ok_iff.mp played
    cases crosses : c.crosses with
    | true =>
      rw [crosses] at rest
      cases rest
      exact .crossed crosses refreshed
    | false =>
      rw [crosses] at rest
      obtain ⟨⟨e, pause⟩, halted, rest⟩ := bind_ok_iff.mp rest
      cases rest
      exact .halted crosses refreshed halted
  | paused c pause =>
    cases pause with
    | done =>
      cases h
      exact .stayed
    | command choices =>
      cases lines with
      | nil =>
        cases h
        exact .closed nofun
      | cons line rest =>
        obtain ⟨next, reacted, rest⟩ := bind_ok_iff.mp h
        cases next with
        | some d => cases rest; exact .reacted reacted
        | none => cases rest; exact .left reacted
    | again =>
      cases lines with
      | nil =>
        cases h
        exact .closed nofun
      | cons line rest =>
        simp only [step] at h
        split at h
        · rename_i more
          cases h
          exact .renewed more
        · rename_i done
          cases h
          exact .ended (by simpa using done)

/-- **The invariant of the loops.** -/
def Sound : Phase → Prop
  | .opening c => c.Attached
  | .round c => Steady c
  | .paused c pause => Resting c pause

/-- **Every step keeps the invariant.** -/
theorem Sound.step (h : m.1.Sound) (next : Stepped m n) : n.1.Sound := by
  cases next with
  | opened started =>
    obtain ⟨ready, outdated⟩ := startSession_ready h started
    exact ready.steady outdated
  | @crossed c d lines crosses refreshed =>
    have h : Steady c := h
    obtain ⟨ready, outdated, -⟩ := h.toReady.refresh_crosses crosses refreshed
    exact ready.steady outdated
  | @halted c d e pause lines stays refreshed halted =>
    have h : Steady c := h
    have shows := refresh_shows stays refreshed
    have ready : Ready d := Ready.of_shows (c := { c with outdated := false })
      ⟨h.attached, h.standing⟩ shows
    refine ready.halt shows.outdated ?_ halted
    rw [shows.session]
    cases outdated : c.outdated with
    | true => simpa [Console.crosses, outdated] using stays
    | false => exact h.settled outdated
  | stayed => exact h
  | @closed c pause asks =>
    have h : Resting c pause := h
    exact ⟨h.attached.of_shows (shows_close c pause), nofun, fun _ => farewell_close c asks⟩
  | @reacted c d choices line rest done =>
    have h : Resting c (.command choices) := h
    have prompting := h.prompting choices rfl
    have steady : Steady c := ⟨prompting.toReady, fun _ => prompting.settled⟩
    exact steady.of_acts ((Acts.shows (shows_note c _ _)).trans (acts_react done))
  | @left c choices line rest quit =>
    have h : Resting c (.command choices) := h
    have shows : Shows c (c.note commandPrompt (some line)).leave.1 :=
      (shows_note c _ _).trans (shows_leave _)
    exact ⟨h.attached.of_shows shows, nofun, fun _ => farewell_leave _⟩
  | @renewed c line rest more =>
    have h : Resting c .again := h
    exact h.attached.of_shows (shows_note c _ _)
  | @ended c line rest done =>
    have h : Resting c .again := h
    have shows : Shows c ((c.note againPrompt (some line)).say "Goodbye.") :=
      (shows_note c _ _).trans (shows_tell _ _)
    exact ⟨h.attached.of_shows shows, nofun, fun _ => farewell_say _⟩

/-! ## 6. The measure -/

/-- **The measure of the loops**: four for each line that is still to be typed, and what is left of
the current round. -/
def weight : Phase × List String → Nat
  | (.opening _, lines) => 4 * lines.length + 4
  | (.round c, lines) => 4 * lines.length + if c.crosses then 3 else 2
  | (.paused _ .done, _) => 0
  | (.paused _ _, lines) => 4 * lines.length + 1

/-- **A round that only ran a transition is followed by one that runs none.** -/
theorem crosses_of_refresh {c d : Console} (h : Ready c) (crosses : c.crosses = true)
    (refreshed : c.refresh = .ok d) : d.crosses = false := by
  obtain ⟨-, -, staging⟩ := h.refresh_crosses crosses refreshed
  simp [Console.crosses, Session.awaitsTransition, staging, Staging.clear]

/-- Only a transition that was run lets a round be followed by another one. -/
theorem crosses_of_round {c d : Console} (h : c.round = .ok (.round d)) :
    c.crosses = true ∧ c.refresh = .ok d := by
  have stepped : step (.round c, []) = .ok (.round d, []) := by
    simp only [step, h]
    rfl
  cases stepped_of_step stepped with
  | crossed crosses refreshed => exact ⟨crosses, refreshed⟩

theorem weight_round_le (c : Console) (lines : List String) :
    weight (.round c, lines) ≤ 4 * lines.length + 3 := by
  simp only [weight]
  split <;> omega

theorem weight_paused_le (c : Console) (pause : Pause) (lines : List String) :
    weight (.paused c pause, lines) ≤ 4 * lines.length + 1 := by
  cases pause with
  | done => exact Nat.zero_le _
  | command choices => exact Nat.le_refl _
  | again => exact Nat.le_refl _

theorem weight_paused_of_asks (c : Console) {pause : Pause} (asks : pause ≠ .done)
    (lines : List String) : weight (.paused c pause, lines) = 4 * lines.length + 1 := by
  cases pause with
  | done => exact absurd rfl asks
  | command choices => rfl
  | again => rfl

/-- **Each step lowers the measure**, but for those of a console that is done. -/
theorem weight_lt_of_stepped (h : m.1.Sound) (next : Stepped m n) :
    weight n < weight m ∨ ∃ c lines, m = (.paused c .done, lines) ∧ n = m := by
  cases next with
  | @opened c d lines started =>
    have := weight_round_le d lines
    exact .inl (by simp only [weight] at this ⊢; omega)
  | @crossed c d lines crosses refreshed =>
    have h : Steady c := h
    have stays := crosses_of_refresh h.toReady crosses refreshed
    exact .inl (by simp [weight, crosses, stays])
  | @halted c d e pause lines stays refreshed halted =>
    have := weight_paused_le e pause lines
    exact .inl (by simp only [weight, stays] at this ⊢; simp; omega)
  | @stayed c lines => exact .inr ⟨c, lines, rfl, rfl⟩
  | @closed c pause asks =>
    rw [weight_paused_of_asks c asks]
    exact .inl (by simp [weight])
  | @reacted c d choices line rest done =>
    have := weight_round_le d rest
    exact .inl (by simp only [weight, List.length_cons] at this ⊢; omega)
  | left quit => exact .inl (by simp [weight])
  | renewed more => exact .inl (by simp only [weight, List.length_cons]; omega)
  | ended done => exact .inl (by simp [weight])

/-! ## 7. The recursion -/

/-- So many steps of the loops. -/
def steps : Nat → Phase × List String → Except Crash (Phase × List String)
  | 0, m => .ok m
  | count + 1, m => do steps count (← step m)

/-- What `Console.run` makes of a place of the loops. -/
def finish : Phase × List String → Except Crash (Console × List String)
  | (.opening c, lines) => c.run lines
  | (.round c, lines) => do
    let (last, pause) ← c.resume
    last.play pause lines
  | (.paused c pause, lines) => c.play pause lines

/-- A console that is done, with the lines that are left over. -/
def done : Console × List String → Phase × List String
  | (c, rest) => (.paused c .done, rest)

/-- Without a transition to run, a screen is up to date after one look. -/
theorem settle_of_stays {c : Console} (stays : c.crosses = false) : c.settle = c.refresh := by
  unfold Console.settle
  cases refreshed : c.refresh with
  | error crash => rfl
  | ok d => exact refresh_of_shown (refresh_shows stays refreshed).outdated

/-- A round comes to what `resume` gives: the second look of `settle` is the next round, which does
nothing but halt. -/
theorem finish_round {c : Console} (h : Steady c) (lines : List String) :
    (step (.round c, lines) >>= finish) = finish (.round c, lines) := by
  simp only [step, finish, Console.round, Console.resume]
  cases crosses : c.crosses with
  | false =>
    rw [settle_of_stays crosses]
    cases c.refresh with
    | error crash => rfl
    | ok d =>
      simp only [bind, Except.bind, Bool.false_eq_true, if_false]
      cases d.halt <;> rfl
  | true =>
    unfold Console.settle
    cases refreshed : c.refresh with
    | error crash => rfl
    | ok d =>
      have stays := crosses_of_refresh h.toReady crosses refreshed
      change (d.settle >>= halt) >>= _ = (d.refresh >>= halt) >>= _
      rw [settle_of_stays stays]

/-- **A step does not change what the loops come to.** -/
theorem finish_step (h : m.1.Sound) : (step m >>= finish) = finish m := by
  obtain ⟨phase, lines⟩ := m
  cases phase with
  | opening c =>
    simp only [step, finish, Console.run, Console.begin]
    cases c.startSession <;> rfl
  | round c => exact finish_round h lines
  | paused c pause =>
    cases pause with
    | done => rfl
    | again =>
      cases lines with
      | nil => rfl
      | cons line rest =>
        simp only [step, finish, Console.play, answer]
        split <;> rfl
    | command choices =>
      cases lines with
      | nil => rfl
      | cons line rest =>
        simp only [step, finish, Console.play, answer, follow]
        cases (c.note commandPrompt (some line)).react choices line with
        | error crash => rfl
        | ok next => cases next <;> rfl

theorem eq_done_of_weight {m : Phase × List String} (h : weight m = 0) :
    ∃ c lines, m = (.paused c .done, lines) := by
  obtain ⟨phase, lines⟩ := m
  cases phase with
  | opening c => simp [weight] at h
  | round c =>
    simp only [weight] at h
    split at h <;> omega
  | paused c pause =>
    cases pause with
    | done => exact ⟨c, lines, rfl⟩
    | command choices => simp [weight] at h
    | again => simp [weight] at h

/-- **As many steps as the measure says are enough**, and they come to what `Console.run` gives, be
it a console that is done or a fault. -/
theorem steps_eq_finish (count : Nat) (h : m.1.Sound) (enough : weight m ≤ count) :
    steps count m = (finish m).map done := by
  induction count generalizing m with
  | zero =>
    obtain ⟨c, lines, rfl⟩ := eq_done_of_weight (Nat.le_zero.mp enough)
    simp only [steps, finish, Console.play]
    rfl
  | succ count ih =>
    rw [← finish_step h]
    simp only [steps]
    cases stepped : step m with
    | error crash => rfl
    | ok n =>
      have next := stepped_of_step stepped
      refine ih (h.step next) ?_
      rcases weight_lt_of_stepped h next with lower | ⟨c, lines, rfl, rfl⟩
      · omega
      · exact Nat.zero_le _

/-! ## 8. Runs -/

/-- One place of the loops is reached from another. -/
def Reaches : Phase × List String → Phase × List String → Prop :=
  Relation.ReflTransGen fun m n => step m = .ok n

theorem Sound.reaches (h : m.1.Sound) (path : Reaches m n) : n.1.Sound := by
  induction path with
  | refl => exact h
  | tail _ last ih => exact ih.step (stepped_of_step last)

theorem reaches_steps {count : Nat} (h : steps count m = .ok n) : Reaches m n := by
  induction count generalizing m with
  | zero =>
    cases h
    exact .refl
  | succ count ih =>
    obtain ⟨k, first, rest⟩ := bind_ok_iff.mp h
    exact Relation.ReflTransGen.head first (ih rest)

/-- Lines that were typed are not typed again. -/
theorem length_le_of_stepped (next : Stepped m n) : n.2.length ≤ m.2.length := by
  cases next <;> simp

theorem length_le_of_reaches (path : Reaches m n) : n.2.length ≤ m.2.length := by
  induction path with
  | refl => exact Nat.le_refl _
  | tail _ last ih => exact Nat.le_trans (length_le_of_stepped (stepped_of_step last)) ih

/-- **A line is typed before a session is started**, but for the first one. -/
theorem length_lt_of_opening {c : Console} {rest : List String}
    (next : Stepped m (.opening c, rest)) : rest.length < m.2.length := by
  cases next
  exact Nat.lt_succ_self _

/-- **How a console comes to its end** with some lines. -/
structure Stops (c : Console) (lines : List String) : Prop where
  /-- After four steps for each line and four more the loops are done, and `Console.run` gives what
  they came to. -/
  ends : steps (4 * lines.length + 4) (.opening c, lines) = (c.run lines).map done
  /-- Of two rounds in a row one asks for a line or is the last of its session. -/
  asks : ∀ {d e : Console} {rest : List String}, Reaches (.opening c, lines) (.round d, rest) →
    d.round = .ok (.round e) → ∀ f, e.round ≠ .ok (.round f)
  /-- Before another session is started, a line is typed. -/
  renews : ∀ {d e : Console} {m : Phase × List String} {rest rest' : List String},
    Reaches (.opening d, rest) m → step m = .ok (.opening e, rest') → rest'.length < rest.length
  /-- After the end of the input no session is started. -/
  closes : ∀ {d e : Console} {pause : Pause} {rest : List String},
    ¬ Reaches (.paused d pause, []) (.opening e, rest)
  /-- The last thing that is shown is a good-bye. -/
  parts : ∀ {d : Console} {rest : List String}, c.run lines = .ok (d, rest) → Farewell d

theorem not_reaches_opening {d e : Console} {pause : Pause} {rest : List String} :
    ¬ Reaches (.paused d pause, []) (.opening e, rest) := by
  intro path
  cases path with
  | tail before last =>
    have shorter := length_lt_of_opening (stepped_of_step last)
    exact absurd (Nat.lt_of_lt_of_le shorter (length_le_of_reaches before)) (Nat.not_lt_zero _)

/-- **A console that listens to its session stops**, as every fresh one does (`attached_fresh`), and
every one that was played on before; whatever is typed. -/
theorem stops_of_attached {c : Console} (attached : c.Attached) (lines : List String) :
    Stops c lines := by
  have sound : (opening c).Sound := attached
  have ends : steps (4 * lines.length + 4) (.opening c, lines) = (c.run lines).map done :=
    steps_eq_finish (m := (.opening c, lines)) _ sound (Nat.le_refl _)
  refine ⟨ends, ?_, ?_, not_reaches_opening, ?_⟩
  · intro d e rest path crossed f
    have steady : Steady d := sound.reaches path
    obtain ⟨crosses, refreshed⟩ := crosses_of_round crossed
    have stays := crosses_of_refresh steady.toReady crosses refreshed
    intro again
    rw [(crosses_of_round again).1] at stays
    contradiction
  · intro d e m rest rest' path last
    exact Nat.lt_of_lt_of_le (length_lt_of_opening (stepped_of_step last))
      (length_le_of_reaches path)
  · intro d rest played
    have last : steps (4 * lines.length + 4) (.opening c, lines) = .ok (done (d, rest)) := by
      rw [ends, played]
      rfl
    have resting : Resting d .done := sound.reaches (reaches_steps last)
    exact resting.farewell rfl

/-- A console with the road and its fork. -/
def atRoad : Console :=
  .fresh crossroads { id := "road" } (.ofText "save.json") {} .constant none

/-- On the road: on to the fork, up to the end, and no more. -/
theorem stops_at_road :
    Stops atRoad ["", "1", "", "n", "on"] ∧
      ∃ c, atRoad.run ["", "1", "", "n", "on"] = .ok (c, ["on"]) ∧ Farewell c := by
  have stops : Stops atRoad ["", "1", "", "n", "on"] :=
    stops_of_attached (attached_fresh crossroads _ _ _ _ _) _
  have left : (atRoad.run ["", "1", "", "n", "on"]).toOption.map Prod.snd = some ["on"] := by
    decide +kernel
  cases played : atRoad.run ["", "1", "", "n", "on"] with
  | error crash =>
    rw [played] at left
    contradiction
  | ok result =>
    obtain ⟨c, rest⟩ := result
    rw [played] at left
    obtain rfl : rest = ["on"] := Option.some.inj left
    exact ⟨stops, c, rfl, stops.parts played⟩

end Phase
end Gamebook

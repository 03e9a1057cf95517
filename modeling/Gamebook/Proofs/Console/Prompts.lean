/-
# What a player sees when asked

A console that asks for a command has shown all that there is: whatever the player types, it is an
answer to what stands on the screen (`current_of_attached`).

* **The screen.**  `Shown` says that the session was shown and that nothing has happened to it
  since.  Changes are noticed, and a change that was noticed is shown before the next question; so
  along the loops it holds whenever the screen is not out of date (`Kept`, `Kept.step`).
* **The situation.**  The session answers a choice, or it stands at a gate whose open choices were
  listed last, or it is in the middle of its lines (`Prompting.situation`).
* **The answer.**  A number in digits of any script picks the choice of that number
  (`react_of_spells`), and a blank line goes on, except at a gate (`Asking.react_of_blank`).
-/
import Gamebook.Proofs.Console.Rounds
import Gamebook.Proofs.Number.Integers
import Gamebook.Proofs.Session.Saves

namespace Gamebook

/-! ## 1. The screen -/

namespace Phase

open Console

variable {m n start : Phase × List String}

/-- The console of a place of the loops. -/
def console : Phase → Console
  | .opening c | .round c | .paused c _ => c

/-- A step after which the session is as it was, and the screen is not out of date. -/
def Quiet (m n : Phase × List String) : Prop :=
  step m = .ok n ∧ n.1.console.session = m.1.console.session ∧ n.1.console.outdated = false

/-- **The session was shown, and nothing has happened to it since**: there was a round with
something new, which showed the header, unless it stood there already, and then the response or the
current line; and all that came after it was quiet. -/
def Shown (start m : Phase × List String) : Prop :=
  ∃ c typed e, Reaches start (.round c, typed) ∧ c.outdated = true ∧
    Shows { c with outdated := false } e ∧ c.refresh = .ok e.showPlace ∧
    Relation.TransGen Quiet (.round c, typed) m

theorem Shown.tail (h : Shown start m) (quiet : Quiet m n) : Shown start n := by
  obtain ⟨c, typed, e, reached, outdated, header, shown, path⟩ := h
  exact ⟨c, typed, e, reached, outdated, header, shown, path.tail quiet⟩

/-- The invariant of the screen: unless it is out of date, the session was shown. -/
def Kept (start : Phase × List String) : Phase × List String → Prop
  | (.round c, lines) => c.outdated = false → Shown start (.round c, lines)
  | (.paused c (.command choices), lines) => Shown start (.paused c (.command choices), lines)
  | _ => True

theorem Kept.step (reached : Reaches start m) (sound : m.1.Sound) (h : Kept start m)
    (next : step m = .ok n) : Kept start n := by
  cases stepped_of_step next with
  | opened started =>
    have outdated := (startSession_ready sound started).2
    exact fun shown => by rw [outdated] at shown; contradiction
  | @crossed c d lines crosses refreshed =>
    have steady : Steady c := sound
    have outdated := (steady.toReady.refresh_crosses crosses refreshed).2.1
    exact fun shown => by rw [outdated] at shown; contradiction
  | @halted c d e pause lines stays refreshed halted =>
    cases pause with
    | again => trivial
    | done => trivial
    | command choices =>
      have shows := (refresh_shows stays refreshed).trans (shows_halt halted)
      have quiet : Quiet (.round c, lines) (.paused e (.command choices), lines) :=
        ⟨next, shows.session, shows.outdated⟩
      cases outdated : c.outdated with
      | true =>
        obtain ⟨f, header, rfl⟩ := refresh_eq_showPlace outdated stays refreshed
        exact ⟨c, lines, f, reached, outdated, header, refreshed, .single quiet⟩
      | false => exact (h outdated).tail quiet
  | stayed => trivial
  | closed asks => trivial
  | @reacted c d choices line rest done =>
    have resting : Resting c (.command choices) := sound
    have acts : Acts c d := (Acts.shows (shows_note c _ _)).trans (acts_react done)
    intro shown
    exact Shown.tail h ⟨next, ((acts.unnoticed resting.attached).2 shown).2, shown⟩
  | left quit => trivial
  | renewed more => trivial
  | ended done => trivial

theorem Kept.of_reaches (h : Kept start start) (sound : start.1.Sound) (path : Reaches start m) :
    Kept start m := by
  induction path with
  | refl => exact h
  | tail before last ih => exact ih.step before (sound.reaches before) last

end Phase

namespace Console

variable {c d : Console} {choices : List Choice} {line : String}

/-! ## 2. The situation -/

/-- The choices stand on the screen: they are the open choices of the gate at which the session
stands, and their numbered list is what was told last. -/
structure Choosing (c : Console) (choices : List Choice) : Prop where
  gate : c.session.atGate = true
  offered : choices = c.session.openChoices c.game
  listed : ∃ earlier, c.transcript.toList = earlier ++ told ([] :: numbered choices)

/-- The session is in the middle of its lines: nothing is staged, and the current line is no gate
and not the last one. -/
structure Underway (s : Session) : Prop where
  free : s.staging = .clear
  line : ∃ line, s.line? = some line ∧ line.isGate = false
  more : s.index + 1 < s.lines.length

/-- **Where a session can be when its console asks**: a response is shown, or choices are, or there
is a line to go on to; never two of them. -/
inductive Situation (c : Console) (choices : List Choice) : Prop
  | response (shown : c.session.showsResponse = true) (elsewhere : ¬ Choosing c choices)
      (still : ¬ Underway c.session)
  | gate (silent : c.session.showsResponse = false) (choosing : Choosing c choices)
      (still : ¬ Underway c.session)
  | line (silent : c.session.showsResponse = false) (elsewhere : ¬ Choosing c choices)
      (underway : Underway c.session)

theorem Asking.isStaged_eq (h : Asking c choices) :
    c.session.staging.isStaged = c.session.showsResponse := by
  rw [h.standing.isStaged_eq, h.settled, Bool.or_false]

theorem Asking.silent_of_gate (h : Asking c choices) (gate : c.session.atGate = true) :
    c.session.showsResponse = false := by
  rw [← h.isStaged_eq]
  exact ((Session.atGate_iff _).mp gate).1

/-- Away from a gate and without a response there is a line to go on to. -/
theorem Asking.underway (h : Asking c choices) (away : c.session.atGate = false)
    (silent : c.session.showsResponse = false) : Underway c.session := by
  have free : c.session.staging.isStaged = false := h.isStaged_eq.trans silent
  have unread := h.unread
  simp only [Session.atEnd, away, silent, h.settled, Bool.or_eq_false_iff, Bool.not_false,
    Bool.and_true, beq_eq_false_iff_ne, Option.isNone_eq_false_iff] at unread
  obtain ⟨current, unread⟩ := unread
  obtain ⟨line, current⟩ := Option.isSome_iff_exists.mp current
  refine ⟨h.standing.unambiguous.eq_clear free, ⟨line, current, ?_⟩, ?_⟩
  · simpa [Session.atGate, free, current] using away
  · obtain ⟨inside, -⟩ := List.getElem?_eq_some_iff.mp current
    omega

theorem Prompting.situation (h : Prompting c choices) : Situation c choices := by
  cases shown : c.session.showsResponse with
  | true =>
    have staged : c.session.staging.isStaged = true := h.isStaged_eq.trans shown
    refine .response shown (fun choosing => ?_) fun underway => ?_
    · rw [h.silent_of_gate choosing.gate] at shown
      contradiction
    · rw [underway.free] at staged
      contradiction
  | false =>
    cases gate : c.session.atGate with
    | true =>
      refine .gate shown ⟨gate, h.offered.trans (if_pos gate), h.listed gate⟩ fun underway => ?_
      obtain ⟨-, line, current, isGate⟩ := (Session.atGate_iff _).mp gate
      obtain ⟨line', current', noGate⟩ := underway.line
      obtain rfl := Option.some.inj (current.symm.trans current')
      rw [isGate] at noGate
      contradiction
    | false =>
      refine .line shown (fun choosing => ?_) (h.underway gate shown)
      rw [choosing.gate] at gate
      contradiction

/-! ## 3. Numbers -/

/-- A line of blanks, if of anything. -/
def Blank (line : String) : Prop := ∀ c ∈ line.toList, Text.isBlank c = true

/-- A line spells a number: it has at most 4300 decimal digits, of any scripts, and nothing but
blanks before and after them. -/
def Spells (line : String) (k : Nat) : Prop :=
  ∃ before digits after, line.toList = before ++ (digits ++ after) ∧
    (∀ c ∈ before, Text.isBlank c = true) ∧ (∀ c ∈ after, Text.isBlank c = true) ∧
    Text.digitsValue? digits = some k ∧ digits.length ≤ 4300

/-- A line is understood as what stands between its blanks. -/
theorem understood_between {before inner after : List Char}
    (split : line.toList = before ++ (inner ++ after))
    (ahead : ∀ c ∈ before, Text.isBlank c = true) (inside : ∀ c ∈ inner, Text.isBlank c = false)
    (behind : ∀ c ∈ after, Text.isBlank c = true) :
    understood line = inner.map Char.toLower := by
  have stripped : Text.strip (Text.ofString line) = Text.ofChars inner := by
    rw [Text.strip, Text.ofString, split, Text.ofChars_append, Text.ofChars_append]
    exact Text.stripWhile_between (List.forall_mem_map.mpr ahead)
      (List.forall_mem_map.mpr inside) (List.forall_mem_map.mpr behind)
  rw [understood, stripped, Text.toChars_ofChars]

theorem understood_of_blank (blank : Blank line) : understood line = [] := by
  have split : line.toList = line.toList ++ ([] ++ []) := by simp
  exact understood_between split blank nofun nofun

/-- A number is understood as its digits, and these are read as the number. -/
theorem understood_of_spells {k : Nat} (spells : Spells line k) (positive : 1 ≤ k) :
    understood line ≠ [] ∧ (understood line).all Text.isDigitLike = true ∧
      Literal.integer? (understood line) = .ok k := by
  obtain ⟨before, digits, after, split, ahead, behind, value, fits⟩ := spells
  have each : ∀ c ∈ digits, ∃ value, Text.decimalValue? c = some value := by
    obtain ⟨values, digits, -⟩ := Option.map_eq_some_iff.mp value
    exact (Text.digits_of_mapM digits).exists_value
  have inside : ∀ c ∈ digits, Text.isBlank c = false := by
    intro c mem
    obtain ⟨value, digit⟩ := each c mem
    exact Text.isBlank_of_digit digit
  have small : ∀ c ∈ digits, c.toLower = id c := by
    intro c mem
    obtain ⟨value, digit⟩ := each c mem
    exact Text.toLower_of_digit digit
  have same : understood line = digits := calc
    understood line = digits.map Char.toLower := understood_between split ahead inside behind
    _ = digits.map id := List.map_congr_left small
    _ = digits := List.map_id digits
  have nonempty : digits ≠ [] := by
    rintro rfl
    cases value
    exact absurd positive (Nat.not_succ_le_zero 0)
  rw [same]
  refine ⟨nonempty, List.all_eq_true.mpr fun c mem => ?_,
    Literal.integer?_of_digits value nonempty fits⟩
  obtain ⟨value, digit⟩ := each c mem
  simp [Text.isDigitLike, digit]

/-- **A number picks the choice of that number.** -/
theorem react_of_spells (c : Console) {k : Nat} (spells : Spells line k) {choice : Choice}
    (positive : 1 ≤ k) (kth : choices[k - 1]? = some choice) :
    c.react choices line =
      ((c.sayAll ["", "> " ++ choice.text]).perform (.select choice)).map some := by
  obtain ⟨nonempty, digits, read⟩ := understood_of_spells spells positive
  have offered : choices ≠ [] := by
    rintro rfl
    contradiction
  have picked : picked? choices (k : Int) = some choice := by
    unfold picked?
    rw [if_pos (by omega)]
    have index : ((k : Int) - 1).toNat = k - 1 := by omega
    rw [index]
    exact kth
  have chosen : c.choose choices (understood line) =
      (c.sayAll ["", "> " ++ choice.text]).perform (.select choice) := by
    unfold Console.choose
    rw [read]
    simp only [picked]
  cases reaction_react c choices line with
  | read blank free eq => exact absurd blank nonempty
  | reminded blank offered eq => exact absurd blank nonempty
  | picked _ _ _ eq => rw [eq, chosen]
  | quit said word eq => exact absurd (word digits) offered
  | obeyed said word eq => exact absurd (word digits) offered

/-! ## 4. Blank lines -/

/-- **What a blank line makes of a session**: it stays at a gate, and otherwise it moves on.  A
response that was read gives way to the scene that is staged, or else to the gate. -/
inductive Moved (game : Game) (s t : Session) : Prop
  | stayed (gate : s.atGate = true) (eq : t = s)
  | returned (shown : s.showsResponse = true) (nowhere : s.staging.destination = none)
      (eq : t = { s with staging := .clear })
  | entered (shown : s.showsResponse = true) (scene : Text)
      (staged : s.staging.destination = some scene) (eq : t = (s.goTo game scene).session)
  | read (underway : Underway s) (eq : t = { s with index := s.index + 1 })

/-- Telling a console that listens leaves its session as it is. -/
theorem told_eq_self {s : Session} (h : s.listeners = Listeners.add {} listener) : s.told = s := by
  unfold Session.told
  rw [h]
  cases s
  cases h
  rfl

theorem fault_advance (s : Session) : s.advance.fault = none := by
  cases Session.reading_advance s with
  | gated gate eq => rw [eq]; rfl
  | acknowledged away staged eq => rw [eq, Session.notify_eq]
  | next away free more eq => rw [eq, Session.notify_eq]
  | last away free done eq => rw [eq]; rfl

/-- A response that was read gives way to the scene that is staged, or to the gate. -/
theorem Ready.leaves_response (h : Ready d) (shown : c.session.showsResponse = true)
    (acknowledged : d.session = c.session.acknowledged) (game : d.game = c.game) :
    ∃ e, d.cross = .ok e ∧ Moved c.game c.session e.session := by
  have same : d.session.staging.destination = c.session.staging.destination := by
    rw [acknowledged]
    rfl
  cases destination : c.session.staging.destination with
  | none =>
    have cleared : c.session.acknowledged = { c.session with staging := .clear } := by
      simp [Session.acknowledged, Staging.acknowledge, Staging.clear, destination]
    exact ⟨d, cross_of_none (same.trans destination),
      .returned shown destination (acknowledged.trans cleared)⟩
  | some scene =>
    obtain ⟨e, crossed, -, -, entered⟩ := h.cross (same.trans destination)
    refine ⟨e, crossed, .entered shown scene destination ?_⟩
    rw [entered, acknowledged, game, Session.goTo_eq, Session.goTo_eq]
    rfl

theorem Asking.readOn (h : Asking c choices) :
    ∃ d, c.readOn = .ok d ∧ Moved c.game c.session d.session := by
  obtain ⟨next, advanced⟩ := c.perform_of_no_fault .advance (fault_advance c.session)
  have p := h.attached.performed advanced
  have session : next.session = c.session.advance.session := p.session
  have opened : c.readOn = if c.session.showsResponse then next.cross else .ok next := by
    unfold Console.readOn
    rw [advanced]
    rfl
  cases Session.reading_advance c.session with
  | gated gate eq =>
    rw [h.silent_of_gate gate] at opened
    exact ⟨next, opened, .stayed gate (by rw [session, eq]; rfl)⟩
  | acknowledged away staged eq =>
    have shown : c.session.showsResponse = true := h.isStaged_eq.symm.trans staged
    have acknowledged : next.session = c.session.acknowledged := by
      rw [session, eq]
      exact told_eq_self h.attached
    rw [shown] at opened
    obtain ⟨d, crossed, moved⟩ :=
      (h.toReady.of_performed p).leaves_response shown acknowledged p.game
    exact ⟨d, opened.trans crossed, moved⟩
  | next away free more eq =>
    have silent : c.session.showsResponse = false := h.isStaged_eq.symm.trans free
    rw [silent] at opened
    refine ⟨next, opened, .read (h.underway away silent) ?_⟩
    rw [session, eq]
    exact told_eq_self h.attached
  | last away free done eq =>
    have underway := h.underway away (h.isStaged_eq.symm.trans free)
    exact absurd underway.more (by omega)

/-- **A blank line goes on, except at a gate.** -/
theorem Asking.react_of_blank (h : Asking c choices) (blank : Blank line) :
    ∃ d, c.react choices line = .ok (some d) ∧ Moved c.game c.session d.session := by
  have understood := understood_of_blank blank
  cases reaction_react c choices line with
  | read _ free eq =>
    obtain ⟨d, read, moved⟩ := h.readOn
    rw [read] at eq
    exact ⟨d, eq, moved⟩
  | reminded _ offered eq =>
    refine ⟨_, eq, .stayed ?_ rfl⟩
    by_contra away
    exact offered (h.offered.trans (if_neg away))
  | picked said digits offered eq => exact absurd understood said
  | quit said word eq => exact absurd understood said
  | obeyed said word eq => exact absurd understood said

end Console

/-! ## 5. Every question -/

namespace Phase

open Console

/-- **A console that asks for a command shows where its session is**, and takes the answer for
that. -/
structure Current (start : Phase × List String) (c : Console) (choices : List Choice)
    (rest : List String) : Prop where
  /-- Nothing is left to be shown, -/
  upToDate : c.outdated = false
  /-- and nothing has happened to the session since it was shown. -/
  since : Shown start (.paused c (.command choices), rest)
  /-- No destination is staged without a response before it. -/
  settled : c.session.awaitsTransition = false
  /-- The session is not at its end. -/
  unread : c.session.atEnd = false
  situation : Situation c choices
  /-- A number makes the choice that has this number in the list. -/
  picks : ∀ (line : String) (later : List String) (k : Nat), Spells line k → 1 ≤ k →
    k ≤ choices.length → ∃ choice, choices[k - 1]? = some choice ∧
      step (.paused c (.command choices), line :: later) =
        (((c.note commandPrompt (some line)).sayAll ["", "> " ++ choice.text]).perform
          (.select choice)).map fun d => (.round d, later)
  /-- A blank line goes on, except at a gate. -/
  moves : ∀ (line : String) (later : List String), Blank line →
    ∃ d, step (.paused c (.command choices), line :: later) = .ok (.round d, later) ∧
      Moved c.game c.session d.session

/-- **Every question for a command is about what is shown**: a console that listens to its session,
as every fresh one does, asks for a command only when it is current, whatever was typed before. -/
theorem current_of_attached {c d : Console} (attached : c.Attached) {lines rest : List String}
    {choices : List Choice}
    (asked : Reaches (.opening c, lines) (.paused d (.command choices), rest)) :
    Current (.opening c, lines) d choices rest := by
  have sound : (opening c).Sound := attached
  have resting : Resting d (.command choices) := sound.reaches asked
  have prompting := resting.prompting choices rfl
  have kept : Kept (.opening c, lines) (.opening c, lines) := trivial
  have since : Shown (.opening c, lines) (.paused d (.command choices), rest) :=
    kept.of_reaches sound asked
  refine ⟨prompting.shown, since, prompting.settled, prompting.unread, prompting.situation, ?_, ?_⟩
  · intro line later k spells positive within
    have inside : k - 1 < choices.length := by omega
    refine ⟨choices[k - 1], List.getElem?_eq_getElem inside, ?_⟩
    simp only [step, react_of_spells _ spells positive (List.getElem?_eq_getElem inside)]
    cases ((d.note commandPrompt (some line)).sayAll ["", "> " ++ choices[k - 1].text]).perform
      (.select choices[k - 1]) <;> rfl
  · intro line later blank
    have asking := prompting.toAsking.of_shows (shows_note d commandPrompt (some line))
    obtain ⟨e, reacted, moved⟩ := asking.react_of_blank blank
    refine ⟨e, ?_, moved⟩
    simp only [step, reacted]
    rfl

/-- On the road: at the fork both choices are offered. -/
theorem current_at_road :
    ∃ c, Reaches (.opening atRoad, ["", "2"]) (.paused c (.command [goingOn, waiting]), ["2"]) ∧
      Current (.opening atRoad, ["", "2"]) c [goingOn, waiting] ["2"] := by
  have offered : (match steps 4 (.opening atRoad, ["", "2"]) with
      | .ok (.paused _ (.command choices), rest) =>
        decide (choices = [goingOn, waiting] ∧ rest = ["2"])
      | _ => false) = true := by
    decide +kernel
  split at offered
  · rename_i c choices rest reached
    obtain ⟨rfl, rfl⟩ := of_decide_eq_true offered
    have asked := reaches_steps reached
    exact ⟨c, asked, current_of_attached (attached_fresh crossroads _ _ _ _ _) asked⟩
  · contradiction

end Phase
end Gamebook

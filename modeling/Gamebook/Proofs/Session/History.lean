/-
# What the history records

The history of a session is written by two commands: a start empties it, and a choice that is made
at a gate is added to it (`history_run`).  This file settles what that comes to over a whole run, in
`chronicle_through`.

* **One event** empties the history if it is a start, and adds its record, if it has one
  (`history_apply`).  Whether a choice is recorded hangs on the session that it finds, and not on
  what becomes of it: also a choice that a fault breaks off is recorded.
* **A run** is a list of events, each with the session that it finds (`occurrences`).  By induction
  from its end, the history is what the events behind the last start recorded (`sinceStart`).
* **A choice that leads nowhere** leaves the reader at the gate.  So it can be made again, and is
  recorded again (`stillAt_rounds`).
-/
import Gamebook.Proofs.Session.Reports
import Gamebook.Proofs.Session.Selections
import Gamebook.Proofs.Session.Standing
import Mathlib.Data.List.DropRight

namespace Gamebook

/-! ## 1. Events -/

/-- What may happen to a session: a call, which may have a document taken up, or a step. -/
inductive Event where
  | call (call : Call)
  | step (step : Step)

namespace Event

/-- The command that an event comes to, if it comes to one. -/
def command? : Event → Option Command
  | .call asked => asked.command?.toOption
  | .step (.command command) => some command
  | .step _ => none

/-- The session that an event leaves. -/
def apply (game : Game) : Event → Session → Session
  | .call asked, s => (asked.run game s).session
  | .step taken, s => taken.apply game s

/-- Whether an event starts a session. -/
def isStart (event : Event) : Bool := decide (event.command? = some .start)

theorem command?_call_eq_some_iff {asked : Call} {command : Command} :
    (Event.call asked).command? = some command ↔ asked.command? = .ok command := by
  change asked.command?.toOption = some command ↔ _
  cases asked.command? <;> simp [Except.toOption]

theorem apply_of_command {event : Event} {command : Command} (asks : event.command? = some command)
    (game : Game) (s : Session) : event.apply game s = (command.run game s).session := by
  cases event with
  | call asked =>
    have accepted := command?_call_eq_some_iff.mp asks
    rw [apply, Call.run, accepted]
  | step taken =>
    cases taken with
    | command asked =>
      obtain rfl := Option.some.inj asks
      rfl
    | effect text | restore store | listen listener | unlisten handle | redraw source =>
      contradiction

/-- A call that comes to no command changes nothing. -/
theorem apply_of_refused {asked : Call} (refused : (Event.call asked).command? = none) (game : Game)
    (s : Session) : (Event.call asked).apply game s = s := by
  rw [apply, Call.run]
  cases reads : asked.command? with
  | ok command =>
    rw [command?_call_eq_some_iff.mpr reads] at refused
    contradiction
  | error flaw => rfl

end Event

/-- An event with the session that it found. -/
structure Occurrence where
  event : Event
  before : Session

/-- What an event adds to the history: the record of a choice that it makes at a gate. -/
def Occurrence.record? (game : Game) (o : Occurrence) : Option ChoiceRecord :=
  match o.event.command? with
  | some (.select choice) => if o.before.atGate then some (o.before.record game choice) else none
  | _ => none

/-- The occurrences behind the last start; all of them, if there is none. -/
def sinceStart (run : List Occurrence) : List Occurrence := run.rtakeWhile fun o => !o.event.isStart

namespace Session

/-- The session after some events. -/
def through (game : Game) (s : Session) (events : List Event) : Session :=
  events.foldl (fun s event => event.apply game s) s

/-- Events, one after another, each with the session that it finds. -/
def occurrences (game : Game) : List Event → Session → List Occurrence
  | [], _ => []
  | event :: rest, s => ⟨event, s⟩ :: occurrences game rest (event.apply game s)

variable {game : Game} {s : Session}

theorem through_append (s : Session) (past future : List Event) :
    s.through game (past ++ future) = (s.through game past).through game future :=
  List.foldl_append

theorem through_concat (s : Session) (past : List Event) (event : Event) :
    s.through game (past ++ [event]) = event.apply game (s.through game past) :=
  through_append s past [event]

theorem occurrences_concat (past : List Event) (event : Event) (s : Session) :
    occurrences game (past ++ [event]) s =
      occurrences game past s ++ [⟨event, s.through game past⟩] := by
  induction past generalizing s with
  | nil => rfl
  | cons first rest ih => exact congrArg (⟨first, s⟩ :: ·) (ih _)

/-! ## 2. Who writes the history -/

theorem placeless_history : Placeless Session.history :=
  ⟨fun _ => rfl, fun _ _ _ => rfl, fun _ => rfl, fun _ => rfl, fun _ _ _ _ _ => rfl⟩

/-- **Starts and choices write the history**, and nothing else does. -/
theorem history_run (game : Game) (command : Command) (s : Session) :
    (command.run game s).session.history =
      match command with
      | .start => []
      | .select choice => if s.atGate then s.history ++ [s.record game choice] else s.history
      | .advance | .complete | .goTo _ | .load _ => s.history := by
  rw [placeless_history.run]
  cases command <;> rfl

/-- What comes to no command leaves the history alone. -/
theorem history_of_no_command {event : Event} (asks : event.command? = none) (game : Game)
    (s : Session) : (event.apply game s).history = s.history := by
  cases event with
  | call asked => rw [Event.apply_of_refused asks]
  | step taken =>
    cases taken with
    | command asked => contradiction
    | effect text | restore store | listen listener | unlisten handle | redraw source => rfl

/-- **One event** empties the history if it is a start, and adds its record. -/
theorem history_apply (game : Game) (event : Event) (s : Session) :
    (event.apply game s).history =
      (if event.isStart then [] else s.history) ++ (Occurrence.record? game ⟨event, s⟩).toList := by
  unfold Event.isStart Occurrence.record?
  cases asks : event.command? with
  | none => simp [history_of_no_command asks]
  | some command =>
    rw [Event.apply_of_command asks, history_run]
    cases command with
    | select choice => cases s.atGate <;> simp
    | start | advance | complete | goTo scene | load save => simp

/-! ## 3. Runs -/

theorem sinceStart_concat (run : List Occurrence) (o : Occurrence) :
    sinceStart (run ++ [o]) = if o.event.isStart then [] else sinceStart run ++ [o] := by
  unfold sinceStart
  rw [List.rtakeWhile_concat]
  cases o.event.isStart <;> rfl

/-- **The history of a run**, by induction from its end: what the events behind the last start
recorded, after what was there if there was no start. -/
theorem history_eq (game : Game) (s : Session) (events : List Event) :
    (s.through game events).history =
      (if events.any Event.isStart then [] else s.history) ++
        (sinceStart (occurrences game events s)).filterMap (Occurrence.record? game) := by
  induction events using List.reverseRecOn with
  | nil => simp [through, occurrences, sinceStart]
  | append_singleton past event ih =>
    rw [through_concat, history_apply, ih, occurrences_concat, sinceStart_concat]
    cases start : event.isStart with
    | true =>
      have unrecorded : Occurrence.record? game ⟨event, s.through game past⟩ = none := by
        have asks : event.command? = some .start := by simpa [Event.isStart] using start
        simp [Occurrence.record?, asks]
      simp [start, unrecorded]
    | false =>
      cases recorded : Occurrence.record? game ⟨event, s.through game past⟩ <;>
        simp [start, recorded]

/-! ## 4. Choices that lead nowhere -/

/-- Making a choice and reading its response, if it has one. -/
def round (choice : Choice) : List Event :=
  .call (.command (.select choice)) ::
    if choice.response.isEmpty then [] else [.call (.command .advance)]

/-- The reader stands at the gate that `s` stands at, and has made some choices since. -/
structure StillAt (s : Session) (made : List ChoiceRecord) (t : Session) : Prop where
  gate : t.atGate = true
  scene : t.scene = s.scene
  line : t.line? = s.line?
  history : t.history = s.history ++ made

/-- What a choice without destination stages is its response; that is put aside, and the reader is
back at the gate. -/
theorem stillAt_told (game : Game) {choice : Choice} (gate : s.atGate = true) (source : Source) :
    let t := (s.chosen game choice [] source).told
    StillAt s [s.record game choice]
      (if choice.response.isEmpty then t else t.advance.session) := by
  intro t
  have line := ((atGate_iff s).mp gate).2
  cases response : choice.response with
  | nil =>
    have staging : t.staging = .clear := by
      change Staging.stage [] (some choice.response) = _
      rw [response]
      rfl
    exact ⟨(atGate_iff t).mpr ⟨by rw [staging]; rfl, line⟩, rfl, rfl, rfl⟩
  | cons letter rest =>
    have staging : t.staging = ⟨some (letter :: rest), none⟩ := by
      change Staging.stage [] (some choice.response) = _
      rw [response]
      rfl
    have staged : t.staging.isStaged = true := by
      rw [staging]
      rfl
    have away : t.atGate = false := by simp [atGate, staged]
    have read : t.advance = t.acknowledged.notify [] := by
      rw [advance_eq, away, if_neg Bool.false_ne_true, if_pos staged]
    change StillAt s _ t.advance.session
    rw [read]
    refine ⟨(atGate_iff t.acknowledged.told).mpr ⟨?_, line⟩, rfl, rfl, rfl⟩
    change t.staging.acknowledge.isStaged = false
    rw [staging]
    rfl

/-- **A choice without destination leaves the reader at the gate**, and it is recorded, also if its
effect is broken off by a fault. -/
theorem stillAt_round (game : Game) {choice : Choice} (nowhere : choice.destination = [])
    (gate : s.atGate = true) :
    StillAt s [s.record game choice] (s.through game (round choice)) := by
  have made : s.through game (round choice) =
      if choice.response.isEmpty then (s.select game choice).session
      else (s.select game choice).session.advance.session := by
    unfold round
    split <;> rfl
  have found : (s.recorded game choice).destination game choice = .ok ([], s.source) := by
    rw [destination, Choice.leadsToEnding, nowhere]
    rfl
  rw [made]
  cases selection_select game choice s with
  | ignored away eq => exact absurd (gate.symm.trans away) nofun
  | effectFailed gate fault broken eq =>
    have stays : (s.recorded game choice).advance = (s.recorded game choice).idle :=
      advance_gate gate
    have left : (if choice.response.isEmpty then (s.select game choice).session
        else (s.select game choice).session.advance.session) = s.recorded game choice := by
      rw [eq]
      change (if _ then _ else (s.recorded game choice).advance.session) = _
      rw [stays]
      exact ite_self _
    rw [left]
    exact ⟨gate, rfl, rfl, rfl⟩
  | endingFailed gate fault applied broken eq =>
    rw [found] at broken
    contradiction
  | staged gate scene source applied resolved eq =>
    obtain ⟨rfl, rfl⟩ := Prod.mk.inj (Except.ok.inj (found.symm.trans resolved))
    rw [eq]
    exact stillAt_told game gate s.source

/-- As often as a choice without destination is made, as often it is recorded. -/
theorem stillAt_rounds (game : Game) {choice : Choice} (nowhere : choice.destination = [])
    (gate : s.atGate = true) (k : Nat) :
    StillAt s (List.replicate k (s.record game choice))
      (s.through game (List.replicate k (round choice)).flatten) := by
  induction k with
  | zero => exact ⟨gate, rfl, rfl, (List.append_nil _).symm⟩
  | succ k ih =>
    have next := stillAt_round game nowhere ih.gate
    have record : Session.record game choice
        (s.through game (List.replicate k (round choice)).flatten) = s.record game choice := by
      unfold Session.record scene?
      rw [ih.scene]
    rw [record] at next
    rw [List.replicate_succ', List.replicate_succ', List.flatten_append, List.flatten_singleton,
      through_append]
    refine ⟨next.gate, next.scene.trans ih.scene, next.line.trans ih.line, ?_⟩
    rw [next.history, ih.history, List.append_assoc]

/-! ## 5. The whole record -/

/-- **What the history of a session is**, after some events. -/
structure Chronicle (game : Game) (s : Session) (events : List Event) : Prop where
  /-- It is what the events behind the last start recorded, and nothing else. -/
  records : (s.through game events).history =
    (sinceStart (occurrences game events s)).filterMap (Occurrence.record? game)
  /-- Without a start it is only added to. -/
  grows : ∀ future : List Event, future.any Event.isStart = false →
    (s.through game events).history <+: (s.through game (events ++ future)).history
  /-- It survives every load, be it refused or not. -/
  survives : ∀ call : Call, call.isLoad = true →
    (s.through game (events ++ [.call call])).history = (s.through game events).history
  /-- A choice without destination can be made over and over, and is recorded each time. -/
  repeats : ∀ choice : Choice, choice.destination = [] → (s.through game events).atGate = true →
    ∀ k, StillAt (s.through game events)
      (List.replicate k ((s.through game events).record game choice))
      (s.through game (events ++ (List.replicate k (round choice)).flatten))

theorem history_load (game : Game) {call : Call} (load : call.isLoad = true) (s : Session) :
    (call.run game s).session.history = s.history := by
  unfold Call.run
  cases asks : call.command? with
  | error flaw => rfl
  | ok command =>
    obtain ⟨save, rfl⟩ := Call.load_of_isLoad load asks
    exact history_run game (.load save) s

/-- **The history is the record of the choices that were made at gates.**  After whatever calls and
whatever else may happen to a session, it holds one entry for each choice that was made at a gate
since the last start, in order: the name of the scene as it was then, and the text of the choice. -/
theorem chronicle_through (game : Game) (source : Source) (listeners : Listeners)
    (events : List Event) : Chronicle game { fresh source with listeners } events where
  records := by
    rw [history_eq]
    cases events.any Event.isStart <;> rfl
  grows future within := by
    rw [through_append, history_eq _ _ future, within]
    exact List.prefix_append _ _
  survives call load := by
    rw [through_concat]
    exact history_load game load _
  repeats choice nowhere gate k := by
    rw [through_append]
    exact stillAt_rounds game nowhere gate k

/-- At the fork, waiting is chosen twice, the second time while it is staged already; then a save of
the fork is taken up, and going on is chosen there. -/
example :
    let fork := [.command .start, .command .advance].map Event.call
    let save := ((fresh .constant).through crossroads fork).save
    let s := (fresh .constant).through crossroads
      (fork ++ [.step (.command (.select waiting)), .step (.command (.select waiting)),
        .call (.restore save.toDatum), .step (.command (.select goingOn))])
    s.history.map ChoiceRecord.choice = ["Wait", "Go on"].map Text.ofString := by
  decide +kernel

end Session
end Gamebook

/-
# What those who listen find

Listeners are called in the middle of things: they look at the session as it stands when they are
called, and they may remove one another meanwhile.  This file settles when a call of the session
calls them and what they find then, in `noticed_act`.

* **Nothing in between.**  A command that is carried out statement by statement ends as
  `Command.run` says (`enacts_act`): commands are carried out inside commands, but whichever
  statement is last, the listeners come after it.
* **All or nobody.**  Either the session stays as it was, or everybody is called who was registered
  at the beginning, and everybody finds the session as it is at the end.  Those who are removed
  while others are called are called nevertheless (`entries_sightsFrom`), and nothing else of the
  session changes while listeners are called (`session_of_sightsFrom`).
-/
import Gamebook.Proofs.Session.Reports
import Gamebook.Proofs.Session.Standing
import Gamebook.Proofs.Variable.Effects
import Gamebook.Session.Live

namespace Gamebook

/-! ## 1. Carrying out statements -/

namespace Act

variable {α β : Type}

/-- Statements go on from what the statements before left, unless those were broken off. -/
@[simp] theorem carry_bind (act : Act α) (next : α → Act β) (live : Live) :
    carry (act >>= next) live =
      match carry act live with
      | (.ok a, after) => carry (next a) after
      | (.error breach, after) => (.error breach, after) := by
  change (match StateT.run (ExceptT.run act) live with
    | (result, after) => StateT.run (ExceptT.bindCont next result) after) = _
  unfold carry
  generalize StateT.run (ExceptT.run act) live = carried
  obtain ⟨result, after⟩ := carried
  cases result <;> rfl

@[simp] theorem carry_pure (a : α) (live : Live) :
    carry (pure a : Act α) live = (.ok a, live) := rfl

@[simp] theorem carry_throw (breach : Breach) (live : Live) :
    carry (throw breach : Act α) live = (.error breach, live) := rfl

@[simp] theorem carry_current (live : Live) : carry current live = (.ok live.session, live) := rfl

@[simp] theorem carry_write (change : Session → Session) (live : Live) :
    carry (write change) live = (.ok (), { live with session := change live.session }) := rfl

@[simp] theorem carry_tell (report : Report) (live : Live) :
    carry (tell report) live = (.ok (), { live with reports := live.reports ++ [report] }) := rfl

@[simp] theorem carry_call (entry : Nat × Listener) (live : Live) :
    carry (call entry) live =
      (.ok (), { live with
        session := { live.session with
          listeners := live.session.listeners.removeAll entry.2.removes }
        sights := live.sights ++ [⟨entry.1, entry.2, live.session⟩] }) := rfl

end Act

/-! ## 2. Calling listeners -/

/-- What listeners find that are called one after another, the session being as it is but for the
registrations that they remove. -/
def sightsFrom : List (Nat × Listener) → Session → List Sight
  | [], _ => []
  | entry :: rest, s =>
    ⟨entry.1, entry.2, s⟩ ::
      sightsFrom rest { s with listeners := s.listeners.removeAll entry.2.removes }

/-- The registration of a listener that was called. -/
def Sight.entry (sight : Sight) : Nat × Listener := (sight.handle, sight.listener)

/-- Everybody of a round is called once and in order, whoever is removed meanwhile. -/
theorem entries_sightsFrom (entries : List (Nat × Listener)) (s : Session) :
    (sightsFrom entries s).map Sight.entry = entries := by
  induction entries generalizing s with
  | nil => rfl
  | cons entry rest ih => exact congrArg (entry :: ·) (ih _)

/-- **Who is called finds the session** as the one before found it, its listeners apart. -/
theorem session_of_sightsFrom {entries : List (Nat × Listener)} {s : Session} {sight : Sight}
    (called : sight ∈ sightsFrom entries s) (listeners : Listeners) :
    { sight.session with listeners } = { s with listeners } := by
  induction entries generalizing s with
  | nil => exact absurd called List.not_mem_nil
  | cons entry rest ih =>
    rcases List.mem_cons.mp called with rfl | later
    · rfl
    · have found := ih later
      exact found

/-- A live session after a change was made and everybody was told. -/
def Live.notified (live : Live) (changed : Session) (reports : List Report) : Live where
  session := changed.told
  reports := live.reports ++ reports
  sights := live.sights ++ sightsFrom changed.listeners.entries changed

namespace Act

theorem carry_calls (entries : List (Nat × Listener)) (live : Live) :
    carry (entries.forM call) live =
      (.ok (), { live with
        session := { live.session with
          listeners := entries.foldl (fun left entry => left.removeAll entry.2.removes)
            live.session.listeners }
        sights := live.sights ++ sightsFrom entries live.session }) := by
  induction entries generalizing live with
  | nil => simp [sightsFrom]
  | cons entry rest ih =>
    rw [List.forM_eq_forM] at ih ⊢
    simp only [List.forM_cons, carry_bind, carry_call, ih, sightsFrom, List.foldl_cons,
      List.append_assoc, List.singleton_append]

@[simp] theorem carry_notify (live : Live) :
    carry notify live = (.ok (), live.notified live.session []) := by
  have left : live.session.listeners.notify.2 =
      live.session.listeners.entries.foldl (fun left entry => left.removeAll entry.2.removes)
        live.session.listeners := List.foldl_map
  simp only [notify, carry_bind, carry_current, carry_calls, Live.notified, Session.told, left,
    List.append_nil]

/-! ## 3. Commands -/

variable (game : Game)

@[simp] theorem carry_goTo (scene : Text) (live : Live) :
    carry (goTo game scene) live =
      (.ok (), live.notified (live.session.arrival game scene)
        (live.session.arrivalReports game scene)) := by
  cases ending : game.config.isEndingScene scene <;>
    cases reported : live.session.endingReported <;>
    simp [goTo, Live.notified, Session.inEnding, Session.arrival, Session.arrivalReports, ending,
      reported]

@[simp] theorem carry_applyClause (clause : Text) (live : Live) :
    carry (applyClause clause) live =
      match Effect.applyClause live.session.store clause with
      | .ok store => (.ok (), { live with session := { live.session with store } })
      | .error fault => (.error (.fault fault), live) := by
  simp only [applyClause, carry_bind, carry_current]
  cases Effect.applyClause live.session.store clause <;> rfl

/-- Clauses are carried out one after another, until one of them fails. -/
theorem carry_clauses (clauses : List Text) (live : Live) :
    carry (clauses.forM applyClause) live =
      (((Effect.applyClauses live.session.store clauses).2.map Breach.fault).elim (.ok ()) .error,
        { live with session := { live.session with
          store := (Effect.applyClauses live.session.store clauses).1 } }) := by
  induction clauses generalizing live with
  | nil => rfl
  | cons clause rest ih =>
    rw [List.forM_eq_forM] at ih ⊢
    rw [List.forM_cons, carry_bind, carry_applyClause]
    cases applied : Effect.applyClause live.session.store clause with
    | ok store =>
      rw [Effect.applyClauses_cons applied]
      simp only [ih]
    | error fault =>
      rw [Effect.applyClauses_of_error applied]
      rfl

@[simp] theorem carry_destination (choice : Choice) (live : Live) :
    carry (destination game choice) live =
      match live.session.destination game choice with
      | .ok (scene, source) => (.ok scene, { live with session := { live.session with source } })
      | .error fault => (.error (.fault fault), live) := by
  simp only [destination, Session.destination, carry_bind, carry_current]
  cases choice.leadsToEnding with
  | false => rfl
  | true =>
    simp only [if_true]
    cases Ending.resolve game.config live.session.store live.session.source <;> rfl

end Act

/-- **What statements have to come to** that lead to an outcome: nothing is done, or they are
broken off where the outcome has its fault, or everybody is told of the session that they end
with. -/
inductive Enacts (s : Session) : Outcome → Except Breach Unit × Live → Prop
  | idle : Enacts s s.idle (.ok (), { session := s })
  | failed (t : Session) (fault : Fault) :
      Enacts s (t.failed fault) (.error (.fault fault), { session := t })
  | changed (t : Session) (reports : List Report) (listeners : t.listeners = s.listeners) :
      Enacts s (t.notify reports) (.ok (), Live.notified { session := s } t reports)

namespace Act

variable (game : Game) (s : Session)

theorem enacts_goTo (scene : Text) :
    Enacts s (s.goTo game scene) (carry (goTo game scene) { session := s }) := by
  rw [Session.goTo_eq, carry_goTo]
  exact .changed (s.arrival game scene) (s.arrivalReports game scene) rfl

theorem enacts_start : Enacts s (s.start game) (carry (start game) { session := s }) := by
  cases Session.beginning_start game s with
  | atScene first rest scenes eq =>
    have carried : carry (start game) { session := s } =
        (.ok (), Live.notified { session := s } ((s.renewed game).arrival game first.id)
          (.started :: (s.renewed game).arrivalReports game first.id)) := by
      simp only [start, scenes, carry_bind, carry_write, carry_tell, carry_goTo]
      rfl
    rw [eq, Session.goTo_eq, carried]
    exact .changed ((s.renewed game).arrival game first.id) _ rfl
  | nowhere scenes eq =>
    have carried : carry (start game) { session := s } =
        (.ok (), Live.notified { session := s } (s.renewed game) [.started]) := by
      simp only [start, scenes, carry_bind, carry_write, carry_tell, carry_notify]
      rfl
    rw [eq, carried]
    exact .changed (s.renewed game) _ rfl

theorem enacts_advance : Enacts s s.advance (carry advance { session := s }) := by
  cases Session.reading_advance s with
  | gated gate eq =>
    have carried : carry advance { session := s } = (.ok (), { session := s }) := by
      simp [advance, gate]
    rw [eq, carried]
    exact .idle
  | acknowledged away staged eq =>
    have carried : carry advance { session := s } =
        (.ok (), Live.notified { session := s } s.acknowledged []) := by
      simp only [advance, carry_bind, carry_current, away, staged, Bool.false_eq_true, if_false,
        if_true, carry_write, carry_notify]
      rfl
    rw [eq, carried]
    exact .changed s.acknowledged [] rfl
  | next away free more eq =>
    have carried : carry advance { session := s } =
        (.ok (), Live.notified { session := s } s.turned []) := by
      simp only [advance, carry_bind, carry_current, away, free, more, Bool.false_eq_true, if_false,
        if_true, carry_write, carry_notify]
      rfl
    rw [eq, carried]
    exact .changed s.turned [] rfl
  | last away free done eq =>
    have carried : carry advance { session := s } = (.ok (), { session := s }) := by
      simp [advance, away, free, Nat.not_lt.mpr done]
    rw [eq, carried]
    exact .idle

theorem enacts_select (choice : Choice) :
    Enacts s (s.select game choice) (carry (select game choice) { session := s }) := by
  cases Session.selection_select game choice s with
  | ignored away eq =>
    have carried : carry (select game choice) { session := s } = (.ok (), { session := s }) := by
      simp [select, away]
    rw [eq, carried]
    exact .idle
  | effectFailed gate fault broken eq =>
    have carried : carry (select game choice) { session := s } =
        (.error (.fault fault), { session := s.recorded game choice }) := by
      unfold Effect.apply at broken
      simp only [select, carry_bind, carry_current, gate, if_true, carry_write, carry_clauses,
        broken]
      rfl
    rw [eq, carried]
    exact .failed (s.recorded game choice) fault
  | endingFailed gate fault applied broken eq =>
    have carried : carry (select game choice) { session := s } =
        (.error (.fault fault), { session := s.recorded game choice }) := by
      unfold Session.recorded at broken
      unfold Effect.apply at applied broken
      simp only [select, carry_bind, carry_current, gate, if_true, carry_write, carry_clauses,
        applied, Option.map_none, Option.elim_none, carry_destination, broken]
      rfl
    rw [eq, carried]
    exact .failed (s.recorded game choice) fault
  | staged gate scene source applied resolved eq =>
    have carried : carry (select game choice) { session := s } =
        (.ok (), Live.notified { session := s } (s.chosen game choice scene source) []) := by
      unfold Session.recorded at resolved
      unfold Effect.apply at applied resolved
      simp only [select, carry_bind, carry_current, gate, if_true, carry_write, carry_clauses,
        applied, Option.map_none, Option.elim_none, carry_destination, resolved, carry_notify]
      rfl
    rw [eq, carried]
    exact .changed (s.chosen game choice scene source) [] rfl

theorem enacts_complete : Enacts s (s.complete game) (carry (complete game) { session := s }) := by
  rw [Session.complete_eq]
  simp only [complete, carry_bind, carry_current]
  split
  · simp only [Staging.commit, carry_bind, carry_write, carry_goTo]
    rw [Session.goTo_eq]
    exact .changed (s.arrival game _) (s.arrivalReports game _) rfl
  · exact .idle

theorem enacts_load (save : Save) :
    Enacts s (s.load game save) (carry (load game save) { session := s }) := by
  have carried : carry (load game save) { session := s } =
      (.ok (), Live.notified { session := s } (s.resumed game save) []) := by
    simp only [load, carry_bind, carry_write, carry_notify]
    rfl
  rw [Session.load_eq, carried]
  exact .changed (s.resumed game save) [] rfl

end Act

/-- **Statement by statement a command comes to its outcome.** -/
theorem Command.enacts_act (game : Game) (command : Command) (s : Session) :
    Enacts s (command.run game s) (Act.carry (command.act game) { session := s }) := by
  cases command with
  | start => exact Act.enacts_start game s
  | advance => exact Act.enacts_advance s
  | select choice => exact Act.enacts_select game s choice
  | complete => exact Act.enacts_complete game s
  | goTo scene => exact Act.enacts_goTo game s scene
  | load save => exact Act.enacts_load game s save

/-! ## 4. Calls -/

/-- A call as statements. -/
def Call.act (game : Game) : Call → Act Unit
  | .command asked => asked.act game
  | .restore document => Act.restore game document

/-- What statements led to, as the outcome of a call. -/
def outcomeOf (ended : Except Breach Unit) (live : Live) : Outcome where
  session := live.session
  reports := live.reports
  called := live.sights.map Sight.listener
  fault := match ended with
    | .error (.fault fault) => some fault
    | _ => none

/-- **Everybody was told**: of those who were registered in a session each was called once, in
order of registration, and found the session as it is in the end, its listeners apart. -/
structure Told (s : Session) (live : Live) : Prop where
  everyone : live.sights.map Sight.entry = s.listeners.entries
  afterwards : ∀ sight ∈ live.sights,
    { sight.session with listeners := live.session.listeners } = live.session

/-- **What a call comes to for those who listen**, by how its statements end and by what they
leave. -/
structure Noticed (game : Game) (call : Call) (s : Session) (ended : Except Breach Unit)
    (live : Live) : Prop where
  /-- The statements lead to what the call leads to. -/
  outcome : outcomeOf ended live = call.run game s
  /-- A call is refused if it has no save to take up, and only then. -/
  refused : ∀ flaw, ended = .error (.flaw flaw) ↔ call.command? = .error flaw
  /-- **All or nobody**: nothing was done, or everybody was told. -/
  allOrNobody : ended = .ok () → live = { session := s } ∨ Told s live
  /-- What is broken off calls nobody. -/
  silent : ∀ breach, ended = .error breach → live.sights = []
  /-- A load that is broken off was not begun. -/
  untouched : call.isLoad = true → ∀ breach, ended = .error breach → live = { session := s }

variable {game : Game} {s : Session}

theorem told_notified {t : Session} (reports : List Report)
    (listeners : t.listeners = s.listeners) :
    Told s (Live.notified { session := s } t reports) where
  everyone := by
    rw [← listeners]
    exact entries_sightsFrom t.listeners.entries t
  afterwards _ called := session_of_sightsFrom called t.told.listeners

theorem outcomeOf_notified (s t : Session) (reports : List Report) :
    outcomeOf (.ok ()) (Live.notified { session := s } t reports) = t.notify reports := by
  have called : (sightsFrom t.listeners.entries t).map Sight.listener = t.listeners.notify.1 := by
    have entries := congrArg (List.map Prod.snd) (entries_sightsFrom t.listeners.entries t)
    rwa [List.map_map] at entries
  rw [Session.notify_eq, ← called]
  rfl

/-- A call that is not refused is carried out as its command. -/
theorem Call.act_of_command {call : Call} {command : Command} (asks : call.command? = .ok command) :
    call.act game = command.act game := by
  cases call with
  | command asked =>
    obtain rfl := Except.ok.inj asks
    rfl
  | restore document =>
    obtain ⟨save, read, rfl⟩ := Call.restore_eq_ok_iff.mp asks
    simp only [Call.act, Act.restore, read, Command.act]

/-- A call that is refused is broken off at once. -/
theorem Call.carry_of_refused {call : Call} {flaw : Save.Flaw}
    (refused : call.command? = .error flaw) (live : Live) :
    Act.carry (call.act game) live = (.error (.flaw flaw), live) := by
  cases call with
  | command asked => contradiction
  | restore document =>
    have read := Call.restore_eq_error_iff.mp refused
    simp only [Call.act, Act.restore, read, Act.carry_throw]

theorem Enacts.noticed {call : Call} {command : Command} (asks : call.command? = .ok command)
    {o : Outcome} (ran : command.run game s = o) {result : Except Breach Unit × Live}
    (enacts : Enacts s o result) : Noticed game call s result.1 result.2 := by
  have run : call.run game s = o := by rw [Call.run, asks]; exact ran
  have accepted {flaw : Save.Flaw} : call.command? ≠ .error flaw := by
    rw [asks]
    nofun
  cases enacts with
  | idle =>
    exact {
      outcome := run.symm
      refused := fun _ => iff_of_false nofun accepted
      allOrNobody := fun _ => .inl rfl
      silent := fun _ broken => nomatch broken
      untouched := fun _ _ broken => nomatch broken }
  | failed t fault =>
    exact {
      outcome := run.symm
      refused := fun _ => iff_of_false nofun accepted
      allOrNobody := nofun
      silent := fun _ _ => rfl
      untouched := by
        intro load
        obtain ⟨save, rfl⟩ := Call.load_of_isLoad load asks
        exact absurd (congrArg Outcome.fault ran) nofun }
  | changed t reports listeners =>
    exact {
      outcome := (outcomeOf_notified s t reports).trans run.symm
      refused := fun _ => iff_of_false nofun accepted
      allOrNobody := fun _ => .inr (told_notified reports listeners)
      silent := fun _ broken => nomatch broken
      untouched := fun _ _ broken => nomatch broken }

/-- **Those who listen are told of every change, once and afterwards.**  Statement by statement, a
call of whatever session comes to what it comes to as a whole.  If it is not broken off, then either
it changed nothing and called nobody, or it called each of those who were registered when it began
once, in order of registration, when its last change was made.  What is broken off calls nobody, and
a load that is broken off changes nothing. -/
theorem noticed_act (game : Game) (call : Call) (s : Session) :
    Noticed game call s (Act.carry (call.act game) { session := s }).1
      (Act.carry (call.act game) { session := s }).2 := by
  cases asks : call.command? with
  | ok command =>
    rw [Call.act_of_command asks]
    exact (command.enacts_act game s).noticed asks rfl
  | error flaw =>
    rw [Call.carry_of_refused asks]
    exact {
      outcome := by rw [Call.run, asks]; rfl
      refused := by
        intro other
        rw [asks]
        simp
      allOrNobody := nofun
      silent := fun _ _ => rfl
      untouched := fun _ _ _ => rfl }

/-- At the fork, a clerk removes a friend while the choice is told of; the friend is told of it
nevertheless, and of the same session. -/
example :
    let s := (Session.fresh .constant).after crossroads
      [.command .start, .command .advance, .listen { label := "clerk", removes := [1] },
        .listen { label := "friend" }]
    let live := (Act.carry (Act.select crossroads waiting) { session := s }).2
    live.sights.map (fun sight => (sight.listener.label, sight.session.awaitsTransition)) =
        [("clerk", true), ("friend", true)] ∧
      live.session.listeners.entries.map Prod.fst = [0] := by
  decide +kernel

end Gamebook

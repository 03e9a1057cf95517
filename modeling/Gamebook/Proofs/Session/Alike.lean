/-
# Two sessions that a reader cannot tell apart

Two sessions of a game may have different pasts: other choices made, other endings reported, other
listeners.  This file settles what of a session decides about everything that follows: `Alike`
sessions agree on the scene, its lines, the index, the variables, the staging and the draws to
come, and `trace_eq` says that they answer every list of commands alike, view by view, fault by
fault and notification by notification.

`Alike` is a simulation.  Each command looks at nothing but these fields, so it takes alike
sessions to alike sessions (`Alike.run`); the rest is induction on the list of commands.  History,
reports and listeners are written by commands and never read.
-/
import Gamebook.Proofs.Session.Moves

namespace Gamebook

/-! ## 1. Sources with the same draws -/

namespace Source

/-- The source after some draws. -/
def skip : Nat → Source → Source
  | 0, source => source
  | n + 1, source => skip n source.draw.2

/-- The draw that comes after `n` others. -/
def upcoming (source : Source) (n : Nat) : Binary64 := (skip n source).draw.1

/-- Two sources that will give the same draws, however many they gave before. -/
def SameDraws (a b : Source) : Prop := ∀ n, a.upcoming n = b.upcoming n

theorem SameDraws.refl (a : Source) : SameDraws a a := fun _ => rfl

theorem SameDraws.head {a b : Source} (h : SameDraws a b) : a.draw.1 = b.draw.1 := h 0

theorem SameDraws.tail {a b : Source} (h : SameDraws a b) : SameDraws a.draw.2 b.draw.2 :=
  fun n => h (n + 1)

end Source

/-- Two results that agree up to the source: the same fault, or the same scene and sources that go
on alike. -/
inductive SameScene : Except Fault (Text × Source) → Except Fault (Text × Source) → Prop
  | error (fault : Fault) : SameScene (.error fault) (.error fault)
  | ok (scene : Text) {a b : Source} (draws : a.SameDraws b) :
      SameScene (.ok (scene, a)) (.ok (scene, b))

/-- An ending hangs on the variables and on at most one draw. -/
theorem Ending.sameScene_resolve (config : Config) (store : Store) {a b : Source}
    (h : a.SameDraws b) : SameScene (resolve config store a) (resolve config store b) := by
  unfold resolve
  cases deathChance config (reading store "risk") with
  | error fault => exact .error fault
  | ok chance =>
    simp only [bind, Except.bind, pure, Except.pure]
    split
    · rw [h.head]
      exact .ok _ h.tail
    · exact .ok _ h

namespace Session

/-! ## 2. The relation -/

/-- **Alike sessions**: what a command may look at is the same in both. -/
structure Alike (s t : Session) : Prop where
  scene : s.scene = t.scene
  lines : s.lines = t.lines
  index : s.index = t.index
  store : s.store = t.store
  staging : s.staging = t.staging
  draws : s.source.SameDraws t.source

variable {game : Game} {s t : Session}

theorem Alike.told (h : Alike s t) : Alike s.told t.told :=
  ⟨h.scene, h.lines, h.index, h.store, h.staging, h.draws⟩

theorem Alike.line? (h : Alike s t) : s.line? = t.line? := by
  simp only [Session.line?, h.lines, h.index]

theorem Alike.atGate (h : Alike s t) : s.atGate = t.atGate := by
  simp only [Session.atGate, h.line?, h.staging]

/-- **Outcomes that a reader cannot tell apart**: alike sessions, the same fault, and either the
listeners of both sessions were called or those of none. -/
structure AlikeOutcomes (s t : Session) (o p : Outcome) : Prop where
  session : Alike o.session p.session
  fault : o.fault = p.fault
  called : (o.called = s.listeners.notify.1 ∧ p.called = t.listeners.notify.1) ∨
    (o.called = [] ∧ p.called = [])

theorem Alike.idle (h : Alike s t) : AlikeOutcomes s t s.idle t.idle :=
  ⟨h, rfl, .inr ⟨rfl, rfl⟩⟩

theorem Alike.failed {s' t' : Session} (h : Alike s' t') (fault : Fault) :
    AlikeOutcomes s t (s'.failed fault) (t'.failed fault) :=
  ⟨h, rfl, .inr ⟨rfl, rfl⟩⟩

/-- Two changes that end in alike sessions and leave the listeners alone are told alike. -/
theorem alikeOutcomes_notify (s t : Session) {s' t' : Session} (h : Alike s' t')
    (hs : s'.listeners = s.listeners) (ht : t'.listeners = t.listeners)
    (reports reports' : List Report) :
    AlikeOutcomes s t (s'.notify reports) (t'.notify reports') := by
  rw [notify_eq, notify_eq, hs, ht]
  exact ⟨h.told, rfl, .inl ⟨rfl, rfl⟩⟩

/-! ## 3. Commands that enter a scene -/

/-- Wherever two sessions stand, they enter a scene alike. -/
theorem alikeOutcomes_goTo (game : Game) (store : s.store = t.store)
    (draws : s.source.SameDraws t.source) (scene : Text) :
    AlikeOutcomes s t (s.goTo game scene) (t.goTo game scene) := by
  rw [goTo_eq, goTo_eq]
  have h : Alike (s.arrival game scene) (t.arrival game scene) :=
    ⟨rfl, rfl, rfl, store, rfl, draws⟩
  exact alikeOutcomes_notify s t h rfl rfl _ _

/-- **A start leaves nothing of the past** but the draws that were taken. -/
theorem alikeOutcomes_start (draws : s.source.SameDraws t.source) :
    AlikeOutcomes s t (s.start game) (t.start game) := by
  cases beginning_start game s with
  | atScene first rest scenes eq =>
    cases beginning_start game t with
    | nowhere scenes' eq' =>
      rw [scenes] at scenes'
      contradiction
    | atScene first' rest' scenes' eq' =>
      obtain ⟨rfl, -⟩ := List.cons.inj (scenes.symm.trans scenes')
      have h := alikeOutcomes_goTo game (s := s.renewed game) (t := t.renewed game) rfl draws
        first.id
      rw [eq, eq']
      exact ⟨h.session, h.fault, h.called⟩
  | nowhere scenes eq =>
    cases beginning_start game t with
    | atScene first' rest' scenes' eq' =>
      rw [scenes] at scenes'
      contradiction
    | nowhere scenes' eq' =>
      have h : Alike (s.renewed game) (t.renewed game) := ⟨rfl, rfl, rfl, rfl, rfl, draws⟩
      rw [eq, eq']
      exact alikeOutcomes_notify s t h rfl rfl _ _

/-- Taking up one save leaves nothing of the past but the draws that were taken. -/
theorem alikeOutcomes_load (draws : s.source.SameDraws t.source) (save : Save) :
    AlikeOutcomes s t (s.load game save) (t.load game save) := by
  rw [load_eq, load_eq]
  have h : Alike (s.resumed game save) (t.resumed game save) := ⟨rfl, rfl, rfl, rfl, rfl, draws⟩
  exact alikeOutcomes_notify s t h rfl rfl _ _

/-! ## 4. Commands that look at where the reader stands -/

theorem Alike.advance (h : Alike s t) : AlikeOutcomes s t s.advance t.advance := by
  have acknowledged : Alike s.acknowledged t.acknowledged :=
    ⟨h.scene, h.lines, h.index, h.store, congrArg Staging.acknowledge h.staging, h.draws⟩
  have turned : Alike s.turned t.turned :=
    ⟨h.scene, h.lines, congrArg (· + 1) h.index, h.store, h.staging, h.draws⟩
  rw [advance_eq, advance_eq, ← h.atGate, ← h.staging, ← h.index, ← h.lines]
  split
  · exact h.idle
  · split
    · exact alikeOutcomes_notify s t acknowledged rfl rfl _ _
    · split
      · exact alikeOutcomes_notify s t turned rfl rfl _ _
      · exact h.idle

theorem Alike.recorded (h : Alike s t) (game : Game) (choice : Choice) :
    Alike (s.recorded game choice) (t.recorded game choice) :=
  ⟨h.scene, h.lines, h.index, congrArg (fun store => (Effect.apply choice.effect store).1) h.store,
    h.staging, h.draws⟩

theorem Alike.destination (h : Alike s t) (game : Game) (choice : Choice) :
    SameScene (s.destination game choice) (t.destination game choice) := by
  unfold Session.destination
  rw [← h.store]
  split
  · exact Ending.sameScene_resolve game.config s.store h.draws
  · exact .ok _ h.draws

theorem Alike.select (h : Alike s t) (choice : Choice) :
    AlikeOutcomes s t (s.select game choice) (t.select game choice) := by
  cases gate : s.atGate with
  | false =>
    rw [select_away gate, select_away (h.atGate ▸ gate)]
    exact h.idle
  | true =>
    rw [select_gate gate, select_gate (h.atGate ▸ gate), ← h.store]
    have recorded := h.recorded game choice
    cases (Effect.apply choice.effect s.store).2 with
    | some fault => exact recorded.failed fault
    | none =>
      have found := recorded.destination game choice
      generalize (s.recorded game choice).destination game choice = left at found ⊢
      generalize (t.recorded game choice).destination game choice = right at found ⊢
      cases found with
      | error fault => exact recorded.failed fault
      | @ok scene a b draws =>
        have chosen : Alike (s.chosen game choice scene a) (t.chosen game choice scene b) :=
          ⟨recorded.scene, recorded.lines, recorded.index, recorded.store, rfl, draws⟩
        exact alikeOutcomes_notify s t chosen rfl rfl _ _

theorem Alike.complete (h : Alike s t) :
    AlikeOutcomes s t (s.complete game) (t.complete game) := by
  rw [complete_eq, complete_eq, ← h.staging]
  split
  · exact alikeOutcomes_goTo game h.store h.draws _
  · exact h.idle

/-- **Alike sessions answer a command alike.** -/
theorem Alike.run (h : Alike s t) (game : Game) (command : Command) :
    AlikeOutcomes s t (command.run game s) (command.run game t) := by
  cases command with
  | start => exact alikeOutcomes_start h.draws
  | advance => exact h.advance
  | select choice => exact h.select choice
  | complete => exact h.complete
  | goTo scene => exact alikeOutcomes_goTo game h.store h.draws scene
  | load save => exact alikeOutcomes_load h.draws save

/-! ## 5. What a reader can tell -/

/-- What there is to see of a session, but for its history. -/
structure View where
  scene : Text
  sceneInfo : Option Scene
  index : Nat
  line : Option Line
  state : State
  atGate : Bool
  choices : List Choice
  showsResponse : Bool
  awaitsTransition : Bool
  staging : Staging
  progress : Number
  inEnding : Bool
  atEnd : Bool
  store : Store
deriving DecidableEq

def view (game : Game) (s : Session) : View where
  scene := s.scene
  sceneInfo := s.scene? game
  index := s.index
  line := s.line?
  state := s.state game
  atGate := s.atGate
  choices := s.openChoices game
  showsResponse := s.showsResponse
  awaitsTransition := s.awaitsTransition
  staging := s.staging
  progress := s.progress game
  inEnding := s.inEnding game
  atEnd := s.atEnd
  store := s.store

/-- Alike sessions look alike: nothing is seen of the other fields. -/
theorem Alike.view_eq (h : Alike s t) : s.view game = t.view game := by
  have bare (u : Session) : u.view game =
      view game ⟨u.scene, u.lines, u.index, u.store, u.staging, [], false, {}, .constant⟩ := rfl
  rw [bare s, bare t, h.scene, h.lines, h.index, h.store, h.staging]

/-- A session with one listener, who does nothing but listen. -/
def overheard (s : Session) : Session := { s with listeners := Listeners.add {} { label := "" } }

theorem Alike.overheard (h : Alike s t) : Alike s.overheard t.overheard :=
  ⟨h.scene, h.lines, h.index, h.store, h.staging, h.draws⟩

/-- Whether a command notifies those who listen: whether it would call a lone listener. -/
def notifies (game : Game) (command : Command) (s : Session) : Bool :=
  !(command.run game s.overheard).called.isEmpty

theorem Alike.notifies_eq (h : Alike s t) (command : Command) :
    s.notifies game command = t.notifies game command := by
  unfold notifies
  rcases (h.overheard.run game command).called with ⟨hs, ht⟩ | ⟨hs, ht⟩
  · rw [hs, ht]
    rfl
  · rw [hs, ht]

/-- What a reader can tell of one command: what there is to see afterwards, the fault that broke
it off, and whether those who listen were notified. -/
structure Observation where
  view : View
  fault : Option Fault
  notified : Bool
deriving DecidableEq

/-- What a reader can tell of commands, one after another. -/
def trace (game : Game) : List Command → Session → List Observation
  | [], _ => []
  | command :: rest, s =>
    { view := (command.run game s).session.view game
      fault := (command.run game s).fault
      notified := s.notifies game command } :: trace game rest (command.run game s).session

/-- **Alike sessions answer every list of commands alike.** -/
theorem Alike.trace_eq (h : Alike s t) (commands : List Command) :
    s.trace game commands = t.trace game commands := by
  induction commands generalizing s t with
  | nil => rfl
  | cons command rest ih =>
    have outcome := h.run game command
    simp only [trace, outcome.session.view_eq, outcome.fault, h.notifies_eq, ih outcome.session]

end Session
end Gamebook

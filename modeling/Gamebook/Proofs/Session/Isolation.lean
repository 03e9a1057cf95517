/-
# Sessions that know nothing of each other

Someone who starts a session anew is to find nothing of what was done before: no choice, no
variable, nothing staged, no ending that counts as reported.  This file settles that, in
`isolated_start`.

* **What a start leaves** is written down field by field (`opening`), and no field of it hangs on
  the session that was started (`bare_start`).  Who listens, and where the draws come from, is not
  for a session to say.
* **Twins** agree in every field of their own.  A call looks at nothing else, so it takes twins to
  twins, and reports the same endings of both (`Twins.call`); the rest is induction on the calls.

Twins agree in more than sessions that a reader cannot tell apart (`Alike`): also in what they have
recorded, and in whether an ending was reported.
-/
import Gamebook.Proofs.Session.Alike
import Gamebook.Proofs.Session.History
import Gamebook.Proofs.Session.Reports
import Gamebook.Proofs.Session.Standing

namespace Gamebook.Session

variable {game : Game} {s t : Session}

/-! ## 1. What a start leaves -/

/-- A session as such, without those who listen to it and without the source of its draws. -/
def bare (s : Session) : Session := { s with listeners := {}, source := .constant }

/-- What a start leaves: the start of the first scene, or no place at all if there is none, with
the variables as they are defined. -/
def opening (game : Game) : Session :=
  match game.story.scenes with
  | [] => { store := Store.ofDefs game.story.variableDefs, source := .constant }
  | first :: _ =>
    { scene := first.id
      lines := game.story.linesOf first.id
      store := Store.ofDefs game.story.variableDefs
      endingReported := game.config.isEndingScene first.id
      source := .constant }

/-- **A start leaves the same of every session.** -/
theorem bare_start (game : Game) (s : Session) : (s.start game).session.bare = opening game := by
  unfold opening
  cases beginning_start game s with
  | atScene first rest scenes eq =>
    rw [eq, scenes, goTo_eq]
    rfl
  | nowhere scenes eq =>
    rw [eq, scenes]
    rfl

theorem fault_start (game : Game) (s : Session) : (s.start game).fault = none := by
  cases beginning_start game s with
  | atScene first rest scenes eq => rw [eq, goTo_eq]; rfl
  | nowhere scenes eq => rw [eq]; rfl

/-! ## 2. Twins -/

/-- **Twins**: sessions that agree in everything of their own, and that will be given the same
draws. -/
structure Twins (s t : Session) : Prop where
  bare : s.bare = t.bare
  draws : s.source.SameDraws t.source

/-- Twins agree in whatever is seen of a session as such. -/
theorem Twins.same {α : Type} (h : Twins s t) (seen : Session → α)
    (bare : ∀ u : Session, seen u.bare = seen u) : seen s = seen t :=
  calc
    seen s = seen s.bare := (bare s).symm
    _ = seen t.bare := congrArg seen h.bare
    _ = seen t := bare t

theorem Twins.alike (h : Twins s t) : Alike s t where
  scene := h.same scene fun _ => rfl
  lines := h.same lines fun _ => rfl
  index := h.same index fun _ => rfl
  store := h.same store fun _ => rfl
  staging := h.same staging fun _ => rfl
  draws := h.draws

theorem Twins.history (h : Twins s t) : s.history = t.history :=
  h.same Session.history fun _ => rfl

theorem Twins.endingReported (h : Twins s t) : s.endingReported = t.endingReported :=
  h.same Session.endingReported fun _ => rfl

/-- Alike sessions are twins if they have recorded the same, and reported an ending or not. -/
theorem Alike.twins (h : Alike s t) (history : s.history = t.history)
    (reported : s.endingReported = t.endingReported) : Twins s t where
  bare := by
    unfold Session.bare
    rw [h.scene, h.lines, h.index, h.store, h.staging, history, reported]
  draws := h.draws

/-- Alike sessions record the same of an event. -/
theorem Alike.record?_eq (h : Alike s t) (event : Event) :
    Occurrence.record? game ⟨event, s⟩ = Occurrence.record? game ⟨event, t⟩ := by
  unfold Occurrence.record? record scene?
  simp only [h.atGate, h.scene]

theorem Alike.call (h : Alike s t) (game : Game) (call : Call) :
    AlikeOutcomes s t (call.run game s) (call.run game t) := by
  unfold Call.run
  cases call.command? with
  | ok command => exact h.run game command
  | error flaw => exact h.idle

/-! ## 3. Calls -/

/-- What there is to know of a call: the session that it leaves, as such and as it looks, the
endings that it reports, and the fault that broke it off. -/
structure Snapshot where
  session : Session
  view : View
  endings : List Text
  fault : Option Fault
deriving DecidableEq

/-- What there is to know of an outcome. -/
def snapshot (game : Game) (o : Outcome) : Snapshot where
  session := o.session.bare
  view := o.session.view game
  endings := o.reports.filterMap Report.ending?
  fault := o.fault

/-- What there is to know of calls, one after another. -/
def snapshots (game : Game) : List Call → Session → List Snapshot
  | [], _ => []
  | call :: rest, s =>
    snapshot game (call.run game s) :: snapshots game rest (call.run game s).session

/-- A session looks the same without its listeners and its source. -/
theorem view_bare (game : Game) (s : Session) : s.bare.view game = s.view game := rfl

theorem snapshot_eq {o p : Outcome} (bare : o.session.bare = p.session.bare)
    (endings : o.reports.filterMap Report.ending? = p.reports.filterMap Report.ending?)
    (fault : o.fault = p.fault) : snapshot game o = snapshot game p := by
  unfold snapshot
  rw [← view_bare game o.session, ← view_bare game p.session, bare, endings, fault]

/-- **A call takes twins to twins**, and there is nothing to tell them apart by. -/
theorem Twins.call (h : Twins s t) (game : Game) (call : Call) :
    Twins (call.run game s).session (call.run game t).session ∧
      snapshot game (call.run game s) = snapshot game (call.run game t) := by
  have alike := h.alike.call game call
  have history : (call.run game s).session.history = (call.run game t).session.history := by
    have left := history_apply game (.call call) s
    rw [h.alike.record?_eq, h.history] at left
    exact left.trans (history_apply game (.call call) t).symm
  have entered : Happening.entered? game ⟨call, s⟩ = Happening.entered? game ⟨call, t⟩ := by
    unfold Happening.entered? Command.entered?
    simp only [h.alike.staging]
  have excuse : excused game ⟨call, s⟩ = excused game ⟨call, t⟩ := by
    unfold excused
    simp only [h.endingReported]
  -- Both enter the same scene, and an ending counts as reported in both or in none.
  have left := entersEnding_outcome game ⟨call, s⟩
  have right := entersEnding_outcome game ⟨call, t⟩
  rw [entered, excuse] at left
  have twins := alike.session.twins history (left.flag.trans right.flag.symm)
  exact ⟨twins, snapshot_eq twins.bare (left.reports.trans right.reports.symm) alike.fault⟩

/-- Twins stay twins, whatever is called of both. -/
theorem Twins.snapshots_eq (h : Twins s t) (calls : List Call) :
    snapshots game calls s = snapshots game calls t := by
  induction calls generalizing s t with
  | nil => rfl
  | cons call rest ih =>
    obtain ⟨twins, same⟩ := h.call game call
    rw [snapshots, snapshots, same, ih twins]

/-! ## 4. Starting anew -/

/-- **Sessions are isolated from each other.**  Take any two sessions of a game, whatever was done
to each of them.  After a start they agree in everything of their own, down to the order of the
variables: they are at the opening, with no history, and the same ending was reported of both, or
none.  And given the same draws, they stay the same whatever is called of both: after each call the
sessions agree, look the same, have reported the same endings and were broken off by the same
fault. -/
theorem isolated_start (game : Game) (s t : Session) :
    let a := (s.start game).session
    let b := (t.start game).session
    a.bare = opening game ∧ b.bare = opening game ∧
      snapshot game (s.start game) = snapshot game (t.start game) ∧
      ∀ source source' : Source, source.SameDraws source' → ∀ calls : List Call,
        snapshots game calls { a with source } =
          snapshots game calls { b with source := source' } := by
  intro a b
  have same : a.bare = b.bare := (bare_start game s).trans (bare_start game t).symm
  refine ⟨bare_start game s, bare_start game t, ?_, ?_⟩
  · have left := (entersEnding_start game s).reports
    have right := (entersEnding_start game t).reports
    have fault := (fault_start game s).trans (fault_start game t).symm
    exact snapshot_eq same (left.trans right.symm) fault
  · intro source source' draws calls
    have twins : Twins { a with source } { b with source := source' } := ⟨same, draws⟩
    exact twins.snapshots_eq calls

/-- Of two sessions on the road, one has a choice staged, and the other one has ended, with a
variable that the story does not define.  Started anew, both go on the same. -/
theorem isolated_on_road :
    let s := (fresh .constant).after crossroads
      [.command .start, .command .advance, .command (.select goingOn)]
    let t := (fresh .constant).after crossroads
      [.command .start, .effect "gold=5", .command (.goTo "end_bad")]
    let calls : List Call :=
      [.command .advance, .command (.select goingOn), .command .advance, .command .complete]
    s.bare ≠ t.bare ∧ Source.SameDraws .constant .constant ∧
      snapshots crossroads calls { (s.start crossroads).session with source := .constant } =
        snapshots crossroads calls { (t.start crossroads).session with source := .constant } := by
  intro s t calls
  have draws : Source.SameDraws .constant .constant := Source.SameDraws.refl .constant
  obtain ⟨-, -, -, goOn⟩ := isolated_start crossroads s t
  exact ⟨by decide +kernel, draws, goOn .constant .constant draws calls⟩

end Gamebook.Session

/-
# What a reporter is told

A session reports each start, and the first ending that is entered.  Whether an ending was reported
already is a flag, which four commands write: a start clears it before it enters the first scene,
a load sets it if it leads into an ending, and entering a scene asks it and sets it.  This file
settles what comes of that over whole runs, in `reports_of_run`.

* **Endings.**  A run is cut before every start and every load (`segments`).  In a segment at most
  one ending is reported: the first one that is entered, unless the segment begins with a load into
  an ending.  Within a segment the flag says whether an ending was entered already
  (`endings_happenings`); what begins a segment sets the flag without regard to the past.
* **Reporters.**  A reporter is called in the middle of the commands and may fail there.  An
  exception is skipped, so that the run is the same whoever listens (`narrate_eq`).
-/
import Gamebook.Proofs.Session.Moves
import Gamebook.Session.Reporter
import Mathlib.Data.List.SplitBy

namespace Gamebook

/-! ## 1. Calls and their history -/

/-- What is asked of a session: a command, or to take up a document as a save. -/
inductive Call where
  | command (command : Command)
  | restore (document : Datum)

namespace Call

/-- The command that a call comes to; a document may be refused. -/
def command? : Call → Except Save.Flaw Command
  | .command asked => .ok asked
  | .restore document => (Save.ofDatum document).map .load

/-- Carries out a call; one that is refused changes nothing. -/
def run (game : Game) (call : Call) (s : Session) : Outcome :=
  match call.command? with
  | .ok asked => asked.run game s
  | .error _ => s.idle

/-- Whether a call starts a session. -/
def isStart (call : Call) : Bool :=
  match call.command? with
  | .ok .start => true
  | _ => false

/-- Whether a call is to take something up, be it a save or a document. -/
def isLoad : Call → Bool
  | .command (.load _) | .restore _ => true
  | .command _ => false

/-- The save that a call takes up, if it takes one up. -/
def save? (call : Call) : Option Save :=
  match call.command? with
  | .ok (.load save) => some save
  | _ => none

/-- Whether a segment of a run begins with a call: a start, or a load that succeeded. -/
def opens (call : Call) : Bool := call.isStart || call.save?.isSome

/-- A document that is a save is a call to load it. -/
theorem restore_eq_ok_iff {document : Datum} {command : Command} :
    (Call.restore document).command? = .ok command ↔
      ∃ save, Save.ofDatum document = .ok save ∧ command = .load save := by
  change (Save.ofDatum document).map Command.load = _ ↔ _
  cases Save.ofDatum document <;> simp [Except.map, eq_comm]

theorem restore_eq_error_iff {document : Datum} {flaw : Save.Flaw} :
    (Call.restore document).command? = .error flaw ↔ Save.ofDatum document = .error flaw := by
  change (Save.ofDatum document).map Command.load = _ ↔ _
  cases Save.ofDatum document <;> simp [Except.map]

theorem load_of_isLoad {call : Call} {command : Command} (load : call.isLoad = true)
    (asks : call.command? = .ok command) : ∃ save, command = .load save := by
  cases call with
  | command asked =>
    obtain rfl := Except.ok.inj asks
    cases asked with
    | load save => exact ⟨save, rfl⟩
    | start | advance | select choice | complete | goTo scene => contradiction
  | restore document =>
    obtain ⟨save, -, rfl⟩ := restore_eq_ok_iff.mp asks
    exact ⟨save, rfl⟩

end Call

/-- The scene that a command enters by jumping to its start. -/
def Command.entered? (game : Game) (s : Session) : Command → Option Text
  | .start => game.story.scenes.head?.map Scene.id
  | .complete => s.staging.destination.filter fun scene => !scene.isEmpty
  | .goTo scene => some scene
  | .advance | .select _ | .load _ => none

/-- A call with the session that it found. -/
structure Happening where
  call : Call
  before : Session

namespace Happening

/-- What a call led to. -/
def outcome (game : Game) (h : Happening) : Outcome := h.call.run game h.before

/-- The scene that was entered by jumping to its start. -/
def entered? (game : Game) (h : Happening) : Option Text :=
  h.call.command?.toOption.bind (Command.entered? game h.before)

end Happening

/-- The ending that a report tells of. -/
def Report.ending? : Report → Option Text
  | .started => none
  | .ended scene => some scene

namespace Session

variable {game : Game} {s : Session}

/-- Calls, one after another, each with the session that it finds. -/
def happenings (game : Game) : List Call → Session → List Happening
  | [], _ => []
  | call :: rest, s => ⟨call, s⟩ :: happenings game rest (call.run game s).session

/-- The endings that are reported. -/
def endings (game : Game) (run : List Happening) : List Text :=
  run.flatMap fun h => (h.outcome game).reports.filterMap Report.ending?

/-- The first ending that is entered. -/
def firstEnding? (game : Game) (run : List Happening) : Option Text :=
  (run.filterMap (Happening.entered? game)).find? game.config.isEndingScene

/-- Whether a run begins with a load into an ending. -/
def restoresEnding (game : Game) (run : List Happening) : Bool :=
  (run.head?.bind fun h => h.call.save?).any fun save => game.config.isEndingScene save.scene

/-- A run, cut before every start and every load. -/
def segments (run : List Happening) : List (List Happening) :=
  run.splitBy fun _ h => !h.call.opens

/-! ## 2. One call -/

/-- What entering a scene does about endings: it reports an ending if none was reported yet. -/
structure EntersEnding (game : Game) (scene : Option Text) (reported : Bool) (o : Outcome) :
    Prop where
  reports : o.reports.filterMap Report.ending? =
    if reported then [] else (scene.filter game.config.isEndingScene).toList
  flag : o.session.endingReported = (reported || scene.any game.config.isEndingScene)

theorem entersEnding_goTo (game : Game) (scene : Text) (s : Session) :
    EntersEnding game (some scene) s.endingReported (s.goTo game scene) := by
  rw [goTo_eq]
  constructor
  · simp only [notify_eq, arrivalReports]
    cases ending : game.config.isEndingScene scene <;> cases s.endingReported <;>
      simp [Report.ending?, ending, Option.filter]
  · simp [notify_eq, told, arrival]

/-- A start enters the first scene as if no ending had been reported. -/
theorem entersEnding_start (game : Game) (s : Session) :
    EntersEnding game (game.story.scenes.head?.map Scene.id) false (s.start game) := by
  cases beginning_start game s with
  | atScene first rest scenes eq =>
    obtain ⟨reports, flag⟩ := entersEnding_goTo game first.id (s.renewed game)
    rw [goTo_eq] at reports
    rw [eq, scenes]
    exact ⟨reports, flag⟩
  | nowhere scenes eq =>
    rw [eq, scenes]
    exact ⟨rfl, rfl⟩

/-- What reports nothing and leaves the flag alone enters no scene. -/
theorem entersEnding_none {o : Outcome} {reported : Bool} (reports : o.reports = [])
    (flag : o.session.endingReported = reported) : EntersEnding game none reported o :=
  ⟨by simp [reports], by simp [flag]⟩

/-- Reading on reports nothing. -/
theorem silent_advance (s : Session) :
    s.advance.reports = [] ∧ s.advance.session.endingReported = s.endingReported := by
  cases reading_advance s with
  | gated gate eq => rw [eq]; exact ⟨rfl, rfl⟩
  | acknowledged away staged eq => rw [eq]; exact ⟨rfl, rfl⟩
  | next away free more eq => rw [eq]; exact ⟨rfl, rfl⟩
  | last away free done eq => rw [eq]; exact ⟨rfl, rfl⟩

/-- Nor does making a choice, also if it fails. -/
theorem silent_select (game : Game) (choice : Choice) (s : Session) :
    (s.select game choice).reports = [] ∧
      (s.select game choice).session.endingReported = s.endingReported := by
  cases selection_select game choice s with
  | ignored away eq => rw [eq]; exact ⟨rfl, rfl⟩
  | effectFailed gate fault broken eq => rw [eq]; exact ⟨rfl, rfl⟩
  | endingFailed gate fault applied broken eq => rw [eq]; exact ⟨rfl, rfl⟩
  | staged gate scene source applied resolved eq => rw [eq]; exact ⟨rfl, rfl⟩

theorem entersEnding_complete (game : Game) (s : Session) :
    EntersEnding game (s.staging.destination.filter fun scene => !scene.isEmpty)
      s.endingReported (s.complete game) := by
  cases completion_complete game s with
  | nothing free eq =>
    have nowhere : (s.staging.destination.filter fun scene => !scene.isEmpty) = none := by
      cases destination : s.staging.destination with
      | none => rfl
      | some scene =>
        rw [destination] at free
        simpa [Staging.present] using free
    rw [eq, nowhere]
    exact entersEnding_none rfl rfl
  | entered scene staged named eq =>
    have there : (s.staging.destination.filter fun scene => !scene.isEmpty) = some scene := by
      simp [staged, named]
    rw [eq, there]
    exact entersEnding_goTo game scene s

/-- Taking a save up enters nothing, but counts an ending that it leads into as reported. -/
theorem entersEnding_load (save : Save) (s : Session) :
    EntersEnding game none (game.config.isEndingScene save.scene) (s.load game save) := by
  rw [load_eq]
  exact entersEnding_none rfl rfl

/-- Whether an ending counts as reported by the time that a call enters a scene. -/
def excused (game : Game) (h : Happening) : Bool :=
  match h.call.command? with
  | .ok .start => false
  | .ok (.load save) => game.config.isEndingScene save.scene
  | _ => h.before.endingReported

/-- **Every call** reports the ending that it enters, unless one counts as reported. -/
theorem entersEnding_outcome (game : Game) (h : Happening) :
    EntersEnding game (h.entered? game) (excused game h) (h.outcome game) := by
  obtain ⟨call, s⟩ := h
  unfold Happening.entered? excused Happening.outcome Call.run
  cases reads : call.command? with
  | error flaw => exact entersEnding_none rfl rfl
  | ok command =>
    cases command with
    | start => exact entersEnding_start game s
    | advance => exact entersEnding_none (silent_advance s).1 (silent_advance s).2
    | select choice =>
      have silent := silent_select game choice s
      exact entersEnding_none silent.1 silent.2
    | complete => exact entersEnding_complete game s
    | goTo scene => exact entersEnding_goTo game scene s
    | load save => exact entersEnding_load save s

/-! ## 3. One segment -/

theorem firstEnding?_cons (h : Happening) (rest : List Happening) :
    firstEnding? game (h :: rest) =
      ((h.entered? game).filter game.config.isEndingScene).or (firstEnding? game rest) := by
  unfold firstEnding?
  cases entered : h.entered? game with
  | none => simp [entered]
  | some scene =>
    cases ending : game.config.isEndingScene scene <;>
      simp [entered, ending, Option.filter]

/-- A call that opens no segment finds the flag as the call before it left it. -/
theorem excused_of_within {call : Call} (within : call.opens = false) (s : Session) :
    excused game ⟨call, s⟩ = s.endingReported := by
  unfold excused
  cases reads : call.command? with
  | error flaw => rfl
  | ok command =>
    cases command with
    | start => simp [Call.opens, Call.isStart, reads] at within
    | load save => simp [Call.opens, Call.save?, reads] at within
    | advance => rfl
    | select choice => rfl
    | complete => rfl
    | goTo scene => rfl

/-- One call in front of others, which report their first ending unless one was reported before. -/
theorem endings_cons {h : Happening} {rest : List Happening}
    (others : endings game rest =
      if (h.outcome game).session.endingReported then [] else (firstEnding? game rest).toList) :
    endings game (h :: rest) =
      if excused game h then [] else (firstEnding? game (h :: rest)).toList := by
  obtain ⟨reports, flag⟩ := entersEnding_outcome game h
  have both : endings game (h :: rest) =
      (h.outcome game).reports.filterMap Report.ending? ++ endings game rest := rfl
  rw [both, reports, others, flag, firstEnding?_cons]
  cases excused game h with
  | true => rfl
  | false =>
    cases h.entered? game with
    | none => rfl
    | some scene =>
      cases ending : game.config.isEndingScene scene <;> simp [Option.filter, ending]

/-- **Within a segment the first ending that is entered is reported**, by induction on the calls:
the flag says whether there was an ending already. -/
theorem endings_within (calls : List Call) (within : ∀ call ∈ calls, call.opens = false)
    (s : Session) :
    endings game (happenings game calls s) =
      if s.endingReported then [] else (firstEnding? game (happenings game calls s)).toList := by
  induction calls generalizing s with
  | nil => cases s.endingReported <;> rfl
  | cons call rest ih =>
    have others := ih (fun call mem => within call (List.mem_cons_of_mem _ mem))
      (call.run game s).session
    rw [← excused_of_within (within call (List.mem_cons_self ..)) s]
    exact endings_cons others

/-- **A whole segment**: what comes before its first call does not count, unless that call opens
nothing. -/
theorem endings_segment (call : Call) (rest : List Call)
    (within : ∀ call ∈ rest, call.opens = false) (s : Session)
    (begins : call.opens = true ∨ s.endingReported = false) :
    let segment := happenings game (call :: rest) s
    endings game segment =
      if restoresEnding game segment then [] else (firstEnding? game segment).toList := by
  intro segment
  have reported : excused game ⟨call, s⟩ = restoresEnding game segment := by
    have first : restoresEnding game segment =
        call.save?.any fun save => game.config.isEndingScene save.scene := rfl
    rw [first]
    cases opens : call.opens with
    | false =>
      rw [opens] at begins
      have unloaded : call.save? = none := by
        simpa using (Bool.or_eq_false_iff.mp opens).2
      rw [excused_of_within opens s, unloaded]
      simpa using begins
    | true =>
      unfold Call.opens Call.isStart Call.save? at opens
      unfold excused Call.save?
      split at opens
      · rename_i reads
        simp only [reads]
        rfl
      · split at opens
        · rename_i reads
          simp only [reads]
          rfl
        · contradiction
  rw [← reported]
  exact endings_cons (endings_within rest within _)

/-! ## 4. The cuts -/

theorem happenings_eq_append {calls : List Call} {past future : List Happening}
    (h : happenings game calls s = past ++ future) :
    past = happenings game (past.map Happening.call) s ∧
      ∃ t, future = happenings game (future.map Happening.call) t ∧ (past = [] → t = s) := by
  induction past generalizing calls s with
  | nil =>
    refine ⟨rfl, s, ?_, fun _ => rfl⟩
    rw [List.nil_append] at h
    rw [← h]
    clear h
    induction calls generalizing s with
    | nil => rfl
    | cons call rest ih =>
      rw [happenings, List.map_cons, happenings]
      exact congrArg _ ih
  | cons head past ih =>
    cases calls with
    | nil => simp [happenings] at h
    | cons call rest =>
      obtain ⟨first, others⟩ := List.cons.inj h
      subst first
      obtain ⟨before, t, after, -⟩ := ih others
      refine ⟨?_, t, after, nofun⟩
      rw [List.map_cons, happenings]
      exact congrArg _ before

/-- Behind its first call a segment holds no call that opens one. -/
theorem within_of_mem_segments {run : List Happening} {first : Happening} {rest : List Happening}
    (mem : first :: rest ∈ segments run) : ∀ h ∈ rest, h.call.opens = false := by
  have chain := List.isChain_of_mem_splitBy mem
  -- The relation looks at the later call only, so it holds between any two of a segment.
  let later (_ h : Happening) : Prop := (!h.call.opens) = true
  have trans : Trans later later later := ⟨fun _ opens => opens⟩
  intro h inside
  simpa using (List.pairwise_cons.mp chain.pairwise).1 h inside

/-- Every segment but the first one begins with a call that opens it. -/
theorem opens_of_segments {run : List Happening} {past : List (List Happening)} {first : Happening}
    {rest : List Happening} {future : List (List Happening)}
    (cut : segments run = past ++ (first :: rest) :: future) :
    past = [] ∨ first.call.opens = true := by
  have chain := List.isChain_getLast_head_splitBy (fun _ h => !h.call.opens) run
  change List.IsChain _ (segments run) at chain
  rw [cut, List.isChain_append] at chain
  cases last : past.getLast? with
  | none => exact .inl (List.getLast?_eq_none_iff.mp last)
  | some segment =>
    obtain ⟨_, _, opens⟩ := chain.2.2 segment last (first :: rest) rfl
    exact .inr (by simpa using opens)

theorem endings_of_mem_segments {calls : List Call} (fresh : s.endingReported = false)
    {segment : List Happening} (mem : segment ∈ segments (happenings game calls s)) :
    endings game segment =
      if restoresEnding game segment then [] else (firstEnding? game segment).toList := by
  cases segment with
  | nil => exact absurd mem (List.nil_notMem_splitBy _ _)
  | cons first rest =>
    obtain ⟨past, future, cut⟩ := List.append_of_mem mem
    have whole : happenings game calls s = past.flatten ++ (first :: rest ++ future.flatten) := by
      rw [← List.flatten_splitBy (fun _ h => !h.call.opens) (happenings game calls s)]
      change (segments (happenings game calls s)).flatten = _
      rw [cut]
      simp
    obtain ⟨-, t, later, begins⟩ := happenings_eq_append whole
    obtain ⟨segment, -⟩ := happenings_eq_append later.symm
    rw [List.map_cons] at segment
    rw [segment]
    refine endings_segment first.call (rest.map Happening.call) ?_ t ?_
    · intro call mem'
      obtain ⟨h, inside, rfl⟩ := List.mem_map.mp mem'
      exact within_of_mem_segments mem h inside
    · rcases opens_of_segments cut with none | opens
      · rw [begins (by simp [none])]
        exact .inr fresh
      · exact .inl opens

/-! ## 5. Starts -/

theorem count_started_goTo (game : Game) (scene : Text) (s : Session) :
    (s.goTo game scene).reports.count .started = 0 := by
  rw [goTo_eq, notify_eq, arrivalReports]
  split <;> rfl

/-- **A start is reported once, and nothing else is reported as a start.** -/
theorem count_started_run (call : Call) (s : Session) :
    (call.run game s).reports.count .started = if call.isStart then 1 else 0 := by
  unfold Call.run Call.isStart
  cases call.command? with
  | error flaw => rfl
  | ok command =>
    cases command with
    | start =>
      change (s.start game).reports.count .started = 1
      cases beginning_start game s with
      | atScene first rest scenes eq =>
        have others := count_started_goTo game first.id (s.renewed game)
        rw [goTo_eq] at others
        rw [eq]
        exact List.count_cons_self.trans (congrArg (· + 1) others)
      | nowhere scenes eq => rw [eq]; rfl
    | advance =>
      change s.advance.reports.count .started = 0
      rw [(silent_advance s).1, List.count_nil]
    | select choice =>
      change (s.select game choice).reports.count .started = 0
      rw [(silent_select game choice s).1, List.count_nil]
    | complete =>
      change (s.complete game).reports.count .started = 0
      cases completion_complete game s with
      | nothing free eq => rw [eq]; rfl
      | entered scene staged named eq => rw [eq]; exact count_started_goTo game scene s
    | goTo scene => exact count_started_goTo game scene s
    | load save => rfl

theorem counts_happenings (calls : List Call) (s : Session) :
    ((happenings game calls s).map fun h => (h.outcome game).reports.count .started) =
      calls.map fun call => if call.isStart then 1 else 0 := by
  induction calls generalizing s with
  | nil => rfl
  | cons call rest ih =>
    rw [happenings, List.map_cons, List.map_cons, ih]
    exact congrArg (· :: _) (count_started_run call s)

end Session

/-! ## 6. Reporters -/

namespace Reporter

variable {ε ζ σ : Type}

/-- A reporter is called with one report after another, whatever exceptions it raises; an exit ends
that. -/
def hearAll (r : Reporter ε ζ σ) (reports : List Report) : ExceptT ζ (StateM σ) Unit :=
  reports.forM fun report => do let _ ← (r.hear report).run

@[simp]
theorem hearAll_nil (r : Reporter ε ζ σ) : r.hearAll [] = pure () := rfl

theorem hearAll_cons (r : Reporter ε ζ σ) (report : Report) (rest : List Report) :
    r.hearAll (report :: rest) = (do r.tell report; r.hearAll rest) := rfl

theorem hearAll_append (r : Reporter ε ζ σ) (first second : List Report) :
    r.hearAll (first ++ second) = (do r.hearAll first; r.hearAll second) :=
  List.forM_append

theorem hearAll_silent (reports : List Report) :
    (silent : Reporter ε ζ σ).hearAll reports = pure () := by
  induction reports with
  | nil => rfl
  | cons report rest ih =>
    rw [hearAll_cons, ih]
    rfl

/-- Of the reporters that may be given only one who counts is called. -/
theorem hearAll_engaged (given : Option (Reporter ε ζ σ)) (reports : List Report) :
    (engaged given).hearAll reports =
      (given.filter counts).forM fun r => r.hearAll reports := by
  unfold engaged
  cases given.filter counts with
  | none => exact hearAll_silent reports
  | some r => rfl

/-- A reporter that notes what it is told, and then raises an exception each time. -/
def noting : Reporter Unit Empty (List Report) where
  hear report := do
    modify (· ++ [report])
    throw ()

theorem hearAll_noting (reports : List Report) :
    noting.hearAll reports = modify (· ++ reports) := by
  funext noted
  induction reports generalizing noted with
  | nil => exact congrArg (fun kept => (Except.ok (), kept)) (List.append_nil noted).symm
  | cons report rest ih =>
    change noting.hearAll rest (noted ++ [report]) = _
    rw [ih]
    exact congrArg (fun kept => (Except.ok (), kept)) (List.append_assoc ..)

end Reporter

namespace Session

section Heard

variable {ε ζ σ : Type} (r : Reporter ε ζ σ)

theorem goToHeard_eq (game : Game) (scene : Text) (s : Session) :
    s.goToHeard r game scene = (do
      r.hearAll (s.goTo game scene).reports
      return s.goTo game scene) := by
  unfold goToHeard goTo
  simp only [notify_eq]
  split
  · simp [Reporter.hearAll_cons]
  · simp

/-- A start is reported before the first scene is entered, which may report an ending. -/
theorem startHeard_eq (game : Game) (s : Session) :
    s.startHeard r game = (do
      r.hearAll (s.start game).reports
      return s.start game) := by
  unfold startHeard start
  cases game.story.scenes with
  | nil => simp [notify_eq, Reporter.hearAll_cons]
  | cons first rest => simp [goToHeard_eq, Reporter.hearAll_cons]

theorem completeHeard_eq (game : Game) (s : Session) :
    s.completeHeard r game = (do
      r.hearAll (s.complete game).reports
      return s.complete game) := by
  unfold completeHeard complete
  split
  · simp [idle]
  · exact goToHeard_eq r game _ _

/-- **A command is the same whoever listens**: the reporter is called with its reports in order, and
what comes of that stays with the reporter. -/
theorem runHeard_eq (game : Game) (command : Command) (s : Session) :
    command.runHeard r game s = (do
      r.hearAll (command.run game s).reports
      return command.run game s) := by
  cases command with
  | start => exact startHeard_eq r game s
  | advance => simp [Command.runHeard, Command.run, (silent_advance s).1]
  | select choice => simp [Command.runHeard, Command.run, (silent_select game choice s).1]
  | complete => exact completeHeard_eq r game s
  | goTo scene => exact goToHeard_eq r game scene s
  | load save => rfl

/-- Carries out a call, heard by a reporter. -/
def callHeard (game : Game) (call : Call) (s : Session) : ExceptT ζ (StateM σ) Outcome :=
  match call.command? with
  | .ok command => command.runHeard r game s
  | .error _ => return s.idle

theorem callHeard_eq (game : Game) (call : Call) (s : Session) :
    callHeard r game call s = (do
      r.hearAll (call.run game s).reports
      return call.run game s) := by
  unfold callHeard Call.run
  cases call.command? with
  | error flaw => simp [idle]
  | ok command => exact runHeard_eq r game command s

/-- Calls, one after another, heard by a reporter: what each of them leads to. -/
def narrate (game : Game) : List Call → Session → ExceptT ζ (StateM σ) (List Outcome)
  | [], _ => return []
  | call :: rest, s => do
    let outcome ← callHeard r game call s
    return outcome :: (← narrate game rest outcome.session)

/-- **A run is the same whoever listens**, by induction on the calls. -/
theorem narrate_eq (game : Game) (calls : List Call) (s : Session) :
    narrate r game calls s = (do
      r.hearAll ((happenings game calls s).flatMap fun h => (h.outcome game).reports)
      return (happenings game calls s).map (Happening.outcome game)) := by
  induction calls generalizing s with
  | nil => rfl
  | cons call rest ih =>
    -- The rest goes on from the session that the call leaves.
    simp [narrate, callHeard_eq, ih, happenings, Happening.outcome, Reporter.hearAll_append]

end Heard

/-- **A reporter that raises an exception on every call** is called with the reports all the same,
each once and in their order, and the calls lead to what they lead to anyway. -/
theorem narrate_noting (game : Game) (calls : List Call) (s : Session) (noted : List Report) :
    ((narrate .noting game calls s).run.run noted : Id _) =
      (.ok ((happenings game calls s).map (Happening.outcome game)),
        noted ++ (happenings game calls s).flatMap fun h => (h.outcome game).reports) := by
  rw [narrate_eq, Reporter.hearAll_noting]
  rfl

/-! ## 7. Whole runs -/

/-- **What a reporter is told over a whole run.**  Each start is reported once.  The run is cut
before every start and every load that succeeded, and of each segment the first ending that is
entered is reported and no other one; none is if the segment begins with a load into an ending.  The
reporter, if there is one who counts, is called once with each of these reports and in their order,
and is called with nothing else.  Whatever exceptions it raises, each call leads to what it leads to
anyway: the same session, and the same calls of whoever listens to it.  Only an exit that the
reporter asks for ends the run. -/
theorem reports_of_run (game : Game) (source : Source) (listeners : Listeners)
    (calls : List Call) :
    let s := { fresh source with listeners }
    let run := happenings game calls s
    (run.map fun h => (h.outcome game).reports.count .started) =
        calls.map (fun call => if call.isStart then 1 else 0) ∧
      (segments run).flatten = run ∧
      (segments run).map (endings game) =
        (segments run).map (fun segment =>
          if restoresEnding game segment then [] else (firstEnding? game segment).toList) ∧
      ∀ (ε ζ σ : Type) (given : Option (Reporter ε ζ σ)),
        narrate (.engaged given) game calls s = (do
          (given.filter Reporter.counts).forM fun r =>
            r.hearAll (run.flatMap fun h => (h.outcome game).reports)
          return run.map (Happening.outcome game)) := by
  intro s run
  refine ⟨counts_happenings calls _, List.flatten_splitBy _ run, ?_, fun ε ζ σ given => ?_⟩
  · exact List.map_congr_left fun segment mem => endings_of_mem_segments rfl mem
  · rw [narrate_eq, Reporter.hearAll_engaged]

end Session
end Gamebook

/-
# How often endings are reported

A reporter of a console is told of each session that is started, and of endings.  This file settles
how many endings there can be, at every moment of a run.

* **The ledger.**  There are never more endings than sessions, and as long as no ending of the
  session was reported there is room for one (`Counted`).  A start makes room, entering an ending
  uses it up, and whatever else is done but a load keeps the ledger (`Counted.performed`).
* **Loads.**  The save says whether the ending counts as reported.  If a load leads back to before
  an ending that was reported, then the ending can be reported once more, in the same session: this
  is the only way in which there can be more endings than sessions (`reopens`).
* **Runs.**  So there are at most as many endings as sessions and such loads together, each of
  which takes a typed line (`endings_of_fresh`).  The session by the sea takes the way down, goes
  back and takes it again: two endings of one session (`not_booked_at_shore`).
-/
import Gamebook.Proofs.Console.Storage
import Gamebook.Proofs.Session.Reports

namespace Gamebook

/-! ## 1. Counting reports -/

namespace Report

/-- The endings that were reported. -/
def endings (reports : List Report) : List Text := reports.filterMap ending?

/-- How many sessions were reported to be started. -/
def starts (reports : List Report) : Nat := reports.count .started

theorem endings_append (reports more : List Report) :
    endings (reports ++ more) = endings reports ++ endings more := List.filterMap_append

theorem starts_append (reports more : List Report) :
    starts (reports ++ more) = starts reports + starts more := List.count_append

theorem length_endings_le_of_prefix {told reports : List Report} (h : told <+: reports) :
    (endings told).length ≤ (endings reports).length :=
  (h.filterMap ending?).length_le

/-- **At every moment there were at most as many endings as sessions and `extra` more**: this holds
whenever the reports break off. -/
def Balanced (extra : Nat) (reports : List Report) : Prop :=
  ∀ told, told <+: reports → (endings told).length ≤ starts told + extra

variable {extra : Nat} {reports more : List Report}

theorem Balanced.mono (h : Balanced extra reports) : Balanced (extra + 1) reports :=
  fun told before => Nat.le_succ_of_le (h told before)

/-- Reports stay balanced if what comes in addition keeps the balance at each moment. -/
theorem Balanced.append (h : Balanced extra reports)
    (room : ∀ told, told <+: more → told ≠ [] →
      (endings reports).length + (endings told).length ≤
        starts reports + starts told + extra) : Balanced extra (reports ++ more) := by
  intro told before
  rcases List.prefix_or_prefix_of_prefix before (List.prefix_append reports more) with
    before | ⟨later, rfl⟩
  · exact h told before
  · rw [endings_append, starts_append, List.length_append]
    cases later with
    | nil =>
      have whole := h reports (List.prefix_refl _)
      simpa [starts, endings] using whole
    | cons report later => exact room _ ((List.prefix_append_right_inj _).mp before) nofun

end Report

namespace Console

open Report

variable {c d : Console} {extra : Nat} {commands : List Command}

/-! ## 2. The ledger of a console -/

/-- A console keeps reports, and they are balanced. -/
def Booked (extra : Nat) (c : Console) : Prop :=
  ∃ reports, c.reports = some reports ∧ Balanced extra reports

/-- **The ledger of a console with a session**: as long as no ending of the session was reported,
there is room for one. -/
def Counted (extra : Nat) (c : Console) : Prop :=
  ∃ reports, c.reports = some reports ∧ Balanced extra reports ∧
    (c.session.endingReported = false → (endings reports).length < starts reports + extra)

theorem Booked.mono (h : Booked extra c) : Booked (extra + 1) c := by
  obtain ⟨reports, kept, balanced⟩ := h
  exact ⟨reports, kept, balanced.mono⟩

theorem Counted.booked (h : Counted extra c) : Booked extra c := by
  obtain ⟨reports, kept, balanced, -⟩ := h
  exact ⟨reports, kept, balanced⟩

theorem Counted.mono (h : Counted extra c) : Counted (extra + 1) c := by
  obtain ⟨reports, kept, balanced, room⟩ := h
  exact ⟨reports, kept, balanced.mono, fun unreported => Nat.lt_succ_of_lt (room unreported)⟩

theorem Booked.of_same (h : Booked extra c) (reports : d.reports = c.reports) :
    Booked extra d := by
  obtain ⟨told, kept, balanced⟩ := h
  exact ⟨told, reports.trans kept, balanced⟩

theorem Counted.of_same (h : Counted extra c) (session : d.session = c.session)
    (reports : d.reports = c.reports) : Counted extra d := by
  obtain ⟨told, kept, balanced, room⟩ := h
  rw [← session] at room
  exact ⟨told, reports.trans kept, balanced, room⟩

theorem reports_performed {reports : List Report} (kept : c.reports = some reports)
    (command : Command) :
    (c.performed command).reports =
      some (reports ++ (command.run c.game c.session).reports) := by
  simp [performed, kept]

/-- At most one ending is reported, and none if one was reported before or none is to be
reported any more. -/
theorem endings_of_enters {game : Game} {scene : Option Text} {reported : Bool} {o : Outcome}
    (enters : Session.EntersEnding game scene reported o) :
    (endings o.reports).length ≤ 1 ∧ (reported = true → endings o.reports = []) ∧
      (o.session.endingReported = false → endings o.reports = []) := by
  have told : endings o.reports =
      if reported then [] else (scene.filter game.config.isEndingScene).toList := enters.reports
  rw [told, enters.flag]
  cases reported with
  | true => simp
  | false =>
    cases scene with
    | none => simp
    | some scene =>
      cases ending : game.config.isEndingScene scene <;> simp [Option.filter, ending]

/-- **A start makes room for an ending**, whatever was reported before. -/
theorem Booked.started (h : Booked extra c) : Counted extra (c.performed .start) := by
  obtain ⟨reports, kept, balanced⟩ := h
  have before := balanced reports (List.prefix_refl _)
  obtain ⟨single, -, none⟩ := endings_of_enters (Session.entersEnding_start c.game c.session)
  obtain ⟨rest, head⟩ : ∃ rest, (c.session.start c.game).reports = .started :: rest := ⟨_, rfl⟩
  have started : ∀ told, told <+: .started :: rest → told ≠ [] → 1 ≤ starts told := by
    intro told begun some
    rcases List.prefix_cons_iff.mp begun with rfl | ⟨later, rfl, -⟩
    · exact absurd rfl some
    · simp [starts]
  refine ⟨_, reports_performed kept .start, balanced.append fun told begun some => ?_, ?_⟩
  · have begun : told <+: (c.session.start c.game).reports := begun
    have few := length_endings_le_of_prefix begun
    rw [head] at begun
    have := started told begun some
    omega
  · intro unreported
    have none : endings (Command.start.run c.game c.session).reports = [] := none unreported
    have once : 1 ≤ starts (Command.start.run c.game c.session).reports :=
      head ▸ started _ (List.prefix_refl _) nofun
    rw [endings_append, starts_append, none, List.append_nil]
    omega

/-- Entering a scene keeps the ledger: there is room for the ending that is reported. -/
theorem Counted.entered (h : Counted extra c) {command : Command} {scene : Option Text}
    (enters : Session.EntersEnding c.game scene c.session.endingReported
      (command.run c.game c.session)) : Counted extra (c.performed command) := by
  obtain ⟨reports, kept, balanced, room⟩ := h
  have before := balanced reports (List.prefix_refl _)
  obtain ⟨single, reported, none⟩ := endings_of_enters enters
  refine ⟨_, reports_performed kept command, balanced.append fun told begun some => ?_, ?_⟩
  · have few := length_endings_le_of_prefix begun
    cases flag : c.session.endingReported with
    | true =>
      rw [reported flag] at few
      simp only [List.length_nil] at few
      omega
    | false =>
      have room := room flag
      omega
  · intro unreported
    have unreported : (command.run c.game c.session).session.endingReported = false := unreported
    have flag : c.session.endingReported = false := by
      have kept := unreported
      rw [enters.flag] at kept
      exact (Bool.or_eq_false_iff.mp kept).1
    have room := room flag
    rw [endings_append, starts_append, none unreported, List.append_nil]
    omega

/-- **Whatever is done but a load, the ledger stays.** -/
theorem Counted.performed (h : Counted extra c) {command : Command}
    (other : ∀ save, command ≠ .load save) : Counted extra (c.performed command) := by
  cases command with
  | start => exact h.booked.started
  | advance =>
    obtain ⟨reports, flag⟩ := Session.silent_advance c.session
    have enters : Session.EntersEnding c.game none c.session.endingReported _ :=
      Session.entersEnding_none reports flag
    exact h.entered enters
  | select choice =>
    obtain ⟨reports, flag⟩ := Session.silent_select c.game choice c.session
    have enters : Session.EntersEnding c.game none c.session.endingReported _ :=
      Session.entersEnding_none reports flag
    exact h.entered enters
  | complete => exact h.entered (Session.entersEnding_complete c.game c.session)
  | goTo scene => exact h.entered (Session.entersEnding_goTo c.game scene c.session)
  | load save => exact absurd rfl (other save)

/-- A load reports nothing. -/
theorem reports_load (c : Console) (save : Save) :
    (c.performed (.load save)).reports = c.reports := by
  cases kept : c.reports <;>
    simp [Console.performed, kept, Command.run, Session.load_eq, Session.notify_eq]

/-- After a load there is room, unless an ending was reported before it and counts as not reported
after it. -/
theorem Counted.loaded (h : Counted extra c) (save : Save)
    (flag : c.session.endingReported = true →
      (c.performed (.load save)).session.endingReported = true) :
    Counted extra (c.performed (.load save)) := by
  obtain ⟨reports, kept, balanced, room⟩ := h
  refine ⟨reports, (reports_load c save).trans kept, balanced, fun unreported => room ?_⟩
  cases reported : c.session.endingReported with
  | false => rfl
  | true =>
    rw [flag reported] at unreported
    contradiction

/-- With one ending more there is room after any load. -/
theorem Counted.reopened (h : Counted extra c) (save : Save) :
    Counted (extra + 1) (c.performed (.load save)) := by
  obtain ⟨reports, kept, balanced, -⟩ := h
  have before := balanced reports (List.prefix_refl _)
  exact ⟨reports, (reports_load c save).trans kept, balanced.mono,
    fun _ => Nat.lt_succ_of_le before⟩

/-! ## 3. Deeds -/

/-- Whatever is done without a load, the ledger stays. -/
theorem Counted.deeds (h : Counted extra c) (deeds : Deeds c commands d)
    (other : ∀ save, .load save ∉ commands) : Counted extra d := by
  induction deeds with
  | nothing c => exact h
  | deed first _ ih =>
    obtain ⟨session, reports⟩ := first.deeds.same
    exact ih (h.of_same session reports) other
  | command due _ ih =>
    refine ih (h.performed fun save eq => ?_) fun save mem => ?_
    · exact other save (eq ▸ List.mem_cons_self ..)
    · exact other save (List.mem_cons_of_mem _ mem)

/-- Loads report nothing. -/
theorem Booked.loads (h : Booked extra c) {save : Save} (within : commands.Sublist [.load save])
    (deeds : Deeds c commands d) : Booked extra d := by
  rcases deeds.single within with ⟨-, reports⟩ | ⟨e, -, before, -, -, -, reports⟩
  · exact h.of_same reports
  · exact h.of_same (reports.trans ((reports_load e save).trans before))

theorem Booked.starts (h : Booked extra c) (within : commands.Sublist [.start])
    (deeds : Deeds c commands d) : Booked extra d := by
  rcases deeds.single within with ⟨-, reports⟩ | ⟨e, -, before, -, -, -, reports⟩
  · exact h.of_same reports
  · exact (h.of_same before).started.booked.of_same reports

/-- A command that is broken off has reported nothing. -/
theorem Booked.breaks (h : Booked extra c) {crash : Crash} (breaks : Breaks c crash) :
    Booked extra crash.console := by
  cases breaks with
  | @command command fault due failed =>
    have silent : (command.run c.game c.session).reports = [] := by
      cases Session.upshot_run c.game command c.session with
      | nothing eq => rw [eq]; rfl
      | failed t fault listeners eq => rw [eq]; rfl
      | changed t reports listeners eq =>
        rw [eq, Session.notify_eq] at failed
        contradiction
    obtain ⟨reports, kept, balanced⟩ := h
    refine ⟨reports, ?_, balanced⟩
    rw [reports_performed kept, silent, List.append_nil]
  | percent broken => exact h
  | header found overlong => exact h
  | values overlong => exact h
  | path refused => exact h
  | save broken => exact h
  | long found => exact h
  | file found refused ends => exact h

theorem Booked.startSession (h : Booked extra c) (started : c.startSession = .ok d) :
    Counted extra d := by
  obtain ⟨e, performed, rest⟩ := bind_ok_iff.mp started
  cases rest
  have titled : Shows c { c.showTitle with headed := none } :=
    (shows_sayAll c _).trans (shows_headed _ none)
  rw [perform_eq] at performed
  split at performed
  · cases performed
    exact (h.of_same titled.reports).started.of_same rfl rfl
  · contradiction

end Console

/-! ## 4. Steps -/

namespace Phase

open Console

variable {m n : Phase × List String} {extra : Nat}

/-- **Whether a step loads a save from before an ending that was reported**, so that an ending can
be reported once more. -/
def reopens (m n : Phase × List String) : Bool :=
  match m with
  | (.paused c (.command _), line :: _) =>
    understood line == "load".toList && c.session.endingReported &&
      !n.1.console.session.endingReported
  | _ => false

/-- How often that happens in so many steps. -/
def reopenings : Nat → Phase × List String → Nat
  | 0, _ => 0
  | count + 1, m =>
    match step m with
    | .ok n => (reopens m n).toNat + reopenings count n
    | .error _ => 0

/-- The ledger of the loops: room is made by the start of a session. -/
def Ledger (extra : Nat) : Phase × List String → Prop
  | (.opening c, _) => Booked extra c
  | (.round c, _) | (.paused c _, _) => Counted extra c

theorem Ledger.booked (h : Ledger extra m) : Booked extra m.1.console := by
  obtain ⟨phase, lines⟩ := m
  cases phase with
  | opening c => exact h
  | round c => exact Counted.booked h
  | paused c pause => exact Counted.booked h

theorem ledger_of_counted (h : Counted extra m.1.console) : Ledger extra m := by
  obtain ⟨phase, lines⟩ := m
  cases phase with
  | opening c => exact h.booked
  | round c => exact h
  | paused c pause => exact h

theorem Ledger.add (h : Ledger extra m) (reopened : Bool) :
    Ledger (extra + reopened.toNat) m := by
  cases reopened with
  | false => exact h
  | true =>
    obtain ⟨phase, lines⟩ := m
    cases phase with
    | opening c => exact Booked.mono h
    | round c => exact Counted.mono h
    | paused c pause => exact Counted.mono h

/-- **What a load makes of the ledger**: it stays, unless there is room once more for an ending that
was reported. -/
theorem ledger_of_loads (h : Counted extra m.1.console) {save : Save} {commands : List Command}
    (within : commands.Sublist [.load save]) (deeds : Deeds m.1.console commands n.1.console)
    (kept : m.1.console.session.endingReported = true →
      n.1.console.session.endingReported = true ∨ reopens m n = true) :
    Ledger (extra + (reopens m n).toNat) n := by
  rcases deeds.single within with ⟨session, reports⟩ | ⟨d, same, before, game, -, session, reports⟩
  · exact (ledger_of_counted (h.of_same session reports)).add _
  · have counted : Counted extra d := h.of_same same before
    cases reopened : reopens m n with
    | true => exact ledger_of_counted ((counted.reopened save).of_same session reports)
    | false =>
      refine ledger_of_counted ((counted.loaded save fun flag => ?_).of_same session reports)
      rw [same] at flag
      rcases kept flag with kept | again
      · rw [← session]
        exact kept
      · rw [reopened] at again
        contradiction

/-- **Every step keeps the ledger**, with one ending more for each load that reopens a session. -/
theorem Ledger.step (h : Ledger extra m) (sound : m.1.Sound) (next : step m = .ok n) :
    Ledger (extra + (reopens m n).toNat) n := by
  have others (counted : Counted extra m.1.console) {bound commands : List Command}
      (within : commands.Sublist bound) (deeds : Deeds m.1.console commands n.1.console)
      (other : ∀ save, .load save ∉ bound) : Ledger (extra + (reopens m n).toNat) n :=
    (ledger_of_counted (counted.deeds deeds fun save mem => other save (within.subset mem))).add _
  obtain ⟨bound, commands, agenda, within, deeds⟩ := deeds_of_step sound next
  cases agenda with
  | opens =>
    cases stepped_of_step next with
    | opened started =>
      exact Booked.startSession h started
  | shows => exact others h within deeds (by simp)
  | rests => exact others h within deeds (by simp)
  | @reacts c choices line rest _ agenda =>
    cases agenda with
    | reads => exact others h within deeds (by simp)
    | picks offered => exact others h within deeds (by simp)
    | loads word found read =>
      refine ledger_of_loads h within deeds fun flag => ?_
      have flag : c.session.endingReported = true := flag
      cases left : n.1.console.session.endingReported with
      | true => exact .inl rfl
      | false => exact .inr (by simp [reopens, word, flag, left])

/-- Where a step is broken off, the reports are balanced as they were before. -/
theorem Ledger.breaks (h : Ledger extra m) (sound : m.1.Sound) {crash : Crash}
    (broken : Phase.step m = .error crash) : Booked extra crash.console := by
  by_cases clear : Garbled m
  · obtain ⟨prompt, answer, fault, eq⟩ := step_of_garbled clear
    cases eq.symm.trans broken
    exact h.booked
  · obtain ⟨bound, commands, d, agenda, within, deeds, breaks⟩ := breaks_of_step sound broken clear
    refine Booked.breaks ?_ breaks
    have others (counted : Counted extra m.1.console) (other : ∀ save, .load save ∉ bound) :
        Booked extra d :=
      (counted.deeds deeds fun save mem => other save (within.subset mem)).booked
    cases agenda with
    | opens => exact Booked.starts h within deeds
    | shows => exact others h (by simp)
    | rests => exact others h (by simp)
    | reacts agenda =>
      cases agenda with
      | reads => exact others h (by simp)
      | picks offered => exact others h (by simp)
      | loads word found read => exact (Counted.booked h).loads within deeds

/-! ## 5. Runs -/

theorem reopenings_of_error {crash : Crash} (broken : step m = .error crash) (count : Nat) :
    reopenings (count + 1) m = 0 := by
  simp only [reopenings, broken]

theorem reopenings_of_ok (next : step m = .ok n) (count : Nat) :
    reopenings (count + 1) m = (reopens m n).toNat + reopenings count n := by
  simp only [reopenings, next]

/-- **Along the loops the ledger is kept**, with one ending more for each load that reopens a
session; also where they are broken off. -/
theorem booked_of_steps (count : Nat) (h : Ledger extra m) (sound : m.1.Sound) :
    (∀ n, steps count m = .ok n → Booked (extra + reopenings count m) n.1.console) ∧
      ∀ crash, steps count m = .error crash →
        Booked (extra + reopenings count m) crash.console := by
  induction count generalizing m extra with
  | zero =>
    rw [steps]
    refine ⟨fun n last => ?_, fun crash broken => ?_⟩
    · cases last
      exact h.booked
    · cases broken
  | succ count ih =>
    cases first : step m with
    | error crash =>
      rw [steps_of_error first, reopenings_of_error first]
      refine ⟨fun n last => ?_, fun crash' broken => ?_⟩
      · cases last
      · cases broken
        exact h.breaks sound first
    | ok n =>
      rw [steps_of_ok first, reopenings_of_ok first, ← Nat.add_assoc]
      exact ih (h.step sound first) (sound.step (stepped_of_step first))

/-- How many of some lines ask for a load. -/
def loads (lines : List String) : Nat :=
  lines.countP fun line => understood line == "load".toList

theorem loads_cons (c : Console) (choices : List Choice) (line : String) (rest : List String)
    (n : Phase × List String) :
    (reopens (.paused c (.command choices), line :: rest) n).toNat + loads rest ≤
      loads (line :: rest) := by
  unfold loads
  rw [List.countP_cons]
  cases word : understood line == "load".toList with
  | true =>
    have once := Bool.toNat_le (reopens (.paused c (.command choices), line :: rest) n)
    simp only [if_true]
    omega
  | false =>
    have silent : reopens (.paused c (.command choices), line :: rest) n = false := by
      simp only [reopens, word, Bool.false_and]
    simp [silent]

/-- A step that reopens a session takes such a line. -/
theorem loads_of_stepped (next : Stepped m n) : (reopens m n).toNat + loads n.2 ≤ loads m.2 := by
  have fewer : loads n.2 ≤ loads m.2 := (suffix_of_stepped next).sublist.countP_le
  have quiet (silent : reopens m n = false) : (reopens m n).toNat + loads n.2 ≤ loads m.2 := by
    rw [silent, Bool.toNat_false, Nat.zero_add]
    exact fewer
  cases next with
  | opened started => exact quiet rfl
  | crossed crosses refreshed => exact quiet rfl
  | halted stays refreshed halted => exact quiet rfl
  | stayed => exact quiet rfl
  | @closed c pause asks => cases pause <;> exact quiet rfl
  | reacted done => exact loads_cons _ _ _ _ _
  | left quit => exact loads_cons _ _ _ _ _
  | renewed more => exact quiet rfl
  | ended done => exact quiet rfl

/-- A load takes a typed line. -/
theorem reopenings_le (count : Nat) (m : Phase × List String) :
    reopenings count m ≤ loads m.2 := by
  induction count generalizing m with
  | zero => exact Nat.zero_le _
  | succ count ih =>
    cases first : step m with
    | error crash =>
      rw [reopenings_of_error first]
      exact Nat.zero_le _
    | ok n =>
      rw [reopenings_of_ok first]
      have rest := ih n
      have typed := loads_of_stepped (stepped_of_step first)
      omega

/-- The console that the loops come to, also if they are broken off. -/
def left : Except Crash (Phase × List String) → Console
  | .ok n => n.1.console
  | .error crash => crash.console

/-- **At every moment of every run there are at most as many endings as sessions and loads that
reopen a session together**, whatever was saved before and whatever is typed; and each such load
takes a typed line. -/
theorem endings_of_fresh (game : Game) (manifest : Manifest) (savePath : Path)
    (files : FileTree Bytes) (source : Source) (lines : List String) :
    let c := fresh game manifest savePath files source (some [])
    (∀ count, Booked (reopenings count (.opening c, lines))
        (left (steps count (.opening c, lines)))) ∧
      (∀ count, reopenings count (.opening c, lines) ≤ loads lines) ∧
      Booked (reopenings (4 * lines.length + 4) (.opening c, lines))
        (left ((c.run lines).map done)) := by
  intro c
  have sound : (opening c).Sound := attached_fresh game manifest savePath files source (some [])
  have ledger : Ledger 0 (.opening c, lines) := ⟨[], rfl, fun told before => by
    rw [List.prefix_nil.mp before]
    exact Nat.le_refl _⟩
  have moments : ∀ count, Booked (reopenings count (.opening c, lines))
      (left (steps count (.opening c, lines))) := by
    intro count
    obtain ⟨reached, broken⟩ := booked_of_steps count ledger sound
    rw [Nat.zero_add] at reached broken
    cases last : steps count (.opening c, lines) with
    | ok n => exact reached n last
    | error crash => exact broken crash last
  refine ⟨moments, fun count => reopenings_le count _, ?_⟩
  have whole : steps (4 * lines.length + 4) (.opening c, lines) = (c.run lines).map done :=
    steps_eq_finish (m := (.opening c, lines)) _ sound (Nat.le_refl _)
  rw [← whole]
  exact moments _

end Phase

/-! ## 6. Twice by the sea -/

def goingDown : Choice where
  group := "way"
  text := "Down"
  destination := "end_sea"

/-- A way down to the sea, where two lines are read. -/
def seaside : Game where
  story :=
    { scenes := [{ id := "fork", name := "Fork" }, { id := "end_sea", name := "Sea" }]
      lines :=
        [{ id := 1, scene := "fork", speaker := "→CHOICE:way" },
          { id := 2, scene := "end_sea", speaker := "", text := "Waves." },
          { id := 3, scene := "end_sea", speaker := "", text := "Gulls." }]
      choices := [goingDown] }
  config := {}

/-- A console above the sea, with a reporter. -/
def atShore : Console :=
  .fresh seaside { id := "story" } (.ofText "save.json") {} .constant (some [])

namespace Phase

open Console

/-- What the save holds that is made above the sea. -/
def aboveSea : Save := ⟨"fork", 0, .empty⟩

/-- What is typed there: down to the sea, back to the save, and down again. -/
def upAndDown : List String := ["save", "1", "load", "1"]

/-- By the sea there are two endings of one session. -/
theorem reports_at_shore :
    (left (steps 11 (.opening atShore, upAndDown))).reports =
      some [.started, .ended "end_sea", .ended "end_sea"] := by
  -- Up to the load and from there on the run is computed; that the save is read is a theorem.
  have computed : (asked? (steps 7 (.opening atShore, upAndDown))).any (fun place =>
      decide (understood place.2.2.1 = "load".toList ∧
        FileTree.content? (place.1.files.find place.1.savePath) =
          some (Utf8.encode aboveSea.written.1.toList) ∧
        (left (steps 3
          (.round ((place.1.note commandPrompt (some place.2.2.1)).resumed aboveSea),
            place.2.2.2))).reports =
          some [.started, .ended "end_sea", .ended "end_sea"])) = true := by
    decide +kernel
  have read : Save.ofBytes (Utf8.encode aboveSea.written.1.toList) = .ok aboveSea :=
    Save.ofBytes_written (fun entry mem => nomatch mem) (by decide +kernel)
  have whole := steps_add 7 4 (.opening atShore, upAndDown)
  generalize steps 7 (.opening atShore, upAndDown) = reached at computed whole
  obtain ⟨⟨c, choices, line, rest⟩, asked, computed⟩ := (Option.any_eq_true _ _).mp computed
  obtain ⟨said, content, after⟩ := of_decide_eq_true computed
  rw [show 11 = 7 + 4 from rfl, whole, eq_of_asked? asked]
  change (left (steps 4 _)).reports = _
  rw [steps_of_ok (step_of_load (FileTree.eq_file_of_content? content) read choices said rest)]
  exact after

/-- **By the sea there are more endings than sessions**: after a load the way down ends the same
session again. -/
theorem not_booked_at_shore :
    ¬ ∀ count, Booked 0 (left (steps count (.opening atShore, upAndDown))) := by
  intro all
  obtain ⟨reports, kept, balanced⟩ := all 11
  rw [reports_at_shore] at kept
  obtain rfl := Option.some.inj kept
  exact absurd (balanced _ (List.prefix_refl _)) (by decide)

end Phase
end Gamebook

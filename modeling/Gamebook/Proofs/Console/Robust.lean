/-
# What breaks a console off

A console that plays a moderate game, with a save file that brings nothing wild, is broken off by
one thing only: a line that looks like a number and cannot be read as one, typed where choices are
offered (`robust_of_fresh`).  It is about what is typed: the screen is assumed to show every text.

* **The invariant.**  `Console.Within` keeps the session within a limit, and the save file harmless;
  every deed keeps it (`Within.deeds`), with a higher limit for each choice that is made.
* **Breaking off.**  No reason to break off is left in a console within near limits
  (`Within.not_breaks`).
* **The limit.**  At most one choice is made for each line that is typed (`Agenda.choices_le`), so
  that a bound on the number of lines bounds the limit (`Roomy.step`).
-/
import Gamebook.Proofs.Console.Storage
import Gamebook.Proofs.Session.Limits
import Gamebook.Proofs.Story.Checked

namespace Gamebook

open Number

variable {limit more initial stride : Nat}

namespace Console

variable {c d : Console} {commands : List Command} {command : Command} {choices : List Choice}
  {line : String}

/-! ## 1. The invariant -/

/-- **A harmless save file**: a save in it is within a limit, and what is no save is refused without
a fault. -/
structure Harmless (limit : Nat) (content : Bytes) : Prop where
  accepted : ∀ save, Save.ofBytes content = .ok save → save.Within limit
  refused : ∀ reason, Save.ofBytes content = .error reason → reason.fault? = none

theorem Harmless.mono {content : Bytes} (h : Harmless limit content) (le : limit ≤ more) :
    Harmless more content := ⟨fun save read => (h.accepted save read).mono le, h.refused⟩

/-- What is written is harmless. -/
theorem harmless_written {save : Save} (h : save.Within limit) (whole : save.written.2 = none) :
    Harmless limit (Utf8.encode save.written.1.toList) := by
  have read := Save.ofBytes_written h.store.plain whole
  refine ⟨fun other again => ?_, fun reason refused => ?_⟩
  · rw [← Except.ok.inj (read.symm.trans again)]
    exact h
  · exact absurd (read.symm.trans refused) nofun

/-- **What is kept of a console.** -/
structure Within (limit : Nat) (c : Console) : Prop where
  standing : Session.Standing c.game c.session
  session : c.session.Within limit
  path : c.savePath.Usable
  file : ∀ content, c.files.find c.savePath = .file content → Harmless limit content

theorem Within.mono (h : c.Within limit) (le : limit ≤ more) : c.Within more :=
  ⟨h.standing, h.session.mono le, h.path, fun content found => (h.file content found).mono le⟩

/-- The place of a session is one of the lines of its story. -/
theorem index_lt {game : Game} {s : Session} (modest : game.Modest initial stride)
    (standing : Session.Standing game s) : s.index < nearLimit := by
  have lines := modest.lines
  by_cases none : s.lines = []
  · have first := standing.unread none
    omega
  · have inside := standing.inside none
    rcases standing.cached with cached | ⟨-, nowhere⟩
    · have fewer : s.lines.length ≤ game.story.lines.length := by
        rw [cached]
        exact List.length_filter_le _ _
      omega
    · exact absurd nowhere none

theorem Within.written (modest : c.game.Modest initial stride) (h : c.Within limit)
    (small : limit < nearLimit) : c.session.save.written.2 = none :=
  h.session.save.written small (index_lt modest h.standing)

/-- **Deeds keep it**: what is written can be taken up again. -/
theorem Within.deed (modest : c.game.Modest initial stride) (h : c.Within limit)
    (small : limit < nearLimit) (deed : Deed c d) : d.Within limit := by
  cases deed with
  | tells message => exact ⟨h.standing, h.session, h.path, h.file⟩
  | notes prompt answer => exact ⟨h.standing, h.session, h.path, h.file⟩
  | heads headed => exact ⟨h.standing, h.session, h.path, h.file⟩
  | marks outdated => exact ⟨h.standing, h.session, h.path, h.file⟩
  | @writes files written =>
    refine ⟨h.standing, h.session, h.path, fun content found => ?_⟩
    have found' : files.find c.savePath = _ := FileTree.find_of_write written
    rw [← Found.file.inj (found'.symm.trans found)]
    exact harmless_written h.session.save (h.written modest small)

theorem Due.within (due : Due c command) (h : c.Within limit) : command.Within c.game limit := by
  cases due with
  | start => trivial
  | advance => trivial
  | complete => trivial
  | load found read => exact (h.file _ found).accepted _ read
  | select isOpen => exact mem_choices_of_openChoices isOpen

/-- A command that is due does not fail, and the console stays within a limit that is one stride
higher if it was a choice. -/
theorem Within.performed (modest : c.game.Modest initial stride) (h : c.Within limit)
    (begins : initial < limit) (due : Due c command)
    (small : limit + command.reach stride < nearLimit) :
    (command.run c.game c.session).fault = none ∧
      (c.performed command).Within (limit + command.reach stride) := by
  obtain ⟨free, session⟩ := h.session.run modest begins (due.within h) small
  refine ⟨free, h.standing.run command, session, h.path, fun content found => ?_⟩
  exact (h.file content found).mono (Nat.le_add_right ..)

/-- How far commands move the variables at most. -/
def drift (stride : Nat) (commands : List Command) : Nat :=
  commands.countP Command.isChoice * stride

theorem drift_cons (stride : Nat) (command : Command) (commands : List Command) :
    drift stride (command :: commands) = command.reach stride + drift stride commands := by
  unfold drift Command.reach
  rw [List.countP_cons, Nat.add_mul, Nat.add_comm]
  split <;> simp

/-- **Whatever a console does, it stays within a limit**, higher by one stride for each choice. -/
theorem Within.deeds (modest : c.game.Modest initial stride) (h : c.Within limit)
    (begins : initial < limit) (deeds : Deeds c commands d)
    (small : limit + drift stride commands < nearLimit) :
    d.Within (limit + drift stride commands) := by
  induction deeds generalizing limit with
  | nothing c => exact h.mono (Nat.le_add_right ..)
  | deed first _ ih =>
    refine ih ?_ (h.deed modest (by omega) first) begins small
    rw [first.deeds.fixed.1]
    exact modest
  | @command c e command commands due _ ih =>
    rw [drift_cons, ← Nat.add_assoc] at small ⊢
    exact ih modest (h.performed modest begins due (by omega)).2 (by omega) small

/-! ## 2. Breaking off -/

/-- How far along a reader can be with the default configuration. -/
def milestones : List Number :=
  .ofDecimal 1 0 :: .double (.zero false) :: ({} : Config).milestones.entries.map Prod.snd

/-- Whether a number comes to a percentage that can be shown. -/
def isShown (n : Number) : Bool :=
  match n.mul (.int 100) >>= truncate with
  | .ok percent => !(Number.int percent).isOverlong
  | .error _ => false

theorem isShown_of_milestones : ∀ n ∈ milestones, isShown n = true := by
  unfold milestones
  decide +kernel

theorem progress_mem {game : Game} (config : game.config = {}) (s : Session) :
    s.progress game ∈ milestones := by
  unfold Session.progress milestones
  rw [config]
  split
  · exact List.mem_cons_self ..
  · cases found : ({} : Config).milestones.find? s.scene with
    | none => exact List.mem_cons_of_mem _ (List.mem_cons_self ..)
    | some n =>
      have mem := List.mem_map_of_mem (f := Prod.snd) (Table.mem_of_findEntry found)
      exact List.mem_cons_of_mem _ (List.mem_cons_of_mem _ mem)

/-- With the default configuration the percentage is always found and never too long. -/
theorem percent_of_default (config : c.game.config = {}) :
    ∃ percent, c.percent = .ok percent ∧ (Number.int percent).isOverlong = false := by
  have shown := isShown_of_milestones _ (progress_mem config c.session)
  have eq : c.percent = ((c.session.progress c.game).mul (.int 100) >>= truncate) := rfl
  unfold isShown at shown
  rw [← eq] at shown
  cases found : c.percent with
  | ok percent =>
    rw [found] at shown
    exact ⟨percent, rfl, Bool.eq_false_of_not_eq_true' shown⟩
  | error fault =>
    rw [found] at shown
    exact absurd shown Bool.false_ne_true

/-- **Nothing breaks a console off** that is within near limits. -/
theorem Within.not_breaks (modest : c.game.Modest initial stride) (h : c.Within limit)
    (begins : initial < limit) (small : limit + stride < nearLimit) (crash : Crash) :
    ¬ Breaks c crash := by
  have near : limit < nearLimit := Nat.lt_of_le_of_lt (Nat.le_add_right ..) small
  obtain ⟨percent, shown, short⟩ := percent_of_default modest.config
  intro breaks
  cases breaks with
  | percent broken => exact absurd (shown.symm.trans broken) nofun
  | header found overlong =>
    obtain rfl := Except.ok.inj (shown.symm.trans found)
    exact Bool.false_ne_true (short.symm.trans overlong)
  | values overlong =>
    obtain ⟨entry, mem, overlong⟩ := List.any_eq_true.mp overlong
    have fits := (h.session.store entry mem).2.not_overlong near
    exact Bool.false_ne_true (fits.symm.trans overlong)
  | path refused => exact FileTree.write_ne_badPath h.path refused
  | save broken => exact absurd ((h.written modest near).symm.trans broken) nofun
  | long found => exact FileTree.find_ne_tooLong h.path found
  | file found refused ends =>
    exact absurd (((h.file _ found).refused _ refused).symm.trans ends) nofun
  | @command command fault due failed =>
    have far : command.reach stride ≤ stride := by
      unfold Command.reach
      split <;> omega
    obtain ⟨free, -⟩ := h.performed modest begins due (by omega)
    exact absurd (free.symm.trans failed) nofun

/-! ## 3. Typed lines -/

/-- **A line that looks like a number and cannot be read as one**: something in it is no decimal
digit, or there is too much of it. -/
structure Unreadable (line : String) : Prop where
  said : understood line ≠ []
  like : (understood line).all Text.isDigitLike = true
  flaw : (∃ c ∈ understood line, Text.decimalValue? c = none) ∨
    Literal.digitLimit < (understood line).length

/-- Lines are garbled where choices are offered and nowhere else. -/
theorem garbled_iff : Garbled choices line ↔ choices ≠ [] ∧ Unreadable line := by
  constructor
  · rintro ⟨offered, said, like, failed⟩
    exact ⟨offered, said, like, (Literal.integer?_of_digitLike like said).mp failed⟩
  · rintro ⟨offered, said, like, flaw⟩
    exact ⟨offered, said, like, (Literal.integer?_of_digitLike like said).mpr flaw⟩

/-- Choices that are offered are shown. -/
theorem Prompting.choosing (h : Prompting c choices) (offered : choices ≠ []) :
    Choosing c choices := by
  have gate : c.session.atGate = true := by
    by_contra away
    exact offered (h.offered.trans (if_neg away))
  exact ⟨gate, h.offered.trans (if_pos gate), h.listed gate⟩

/-- **What a console answers** to a line that is typed where choices are offered: the console that
it is then, unless the player quits. -/
inductive Reply (c : Console) (choices : List Choice) (line : String) : Option Console → Prop
  /-- Blanks are no answer. -/
  | reminded (blank : understood line = []) : Reply c choices line (some (c.say "Pick a number."))
  /-- The number of a choice makes this choice. -/
  | selected {number : Int} {choice : Choice}
      (read : Literal.integer? (understood line) = .ok number)
      (picked : picked? choices number = some choice) :
      Reply c choices line
        (some ((c.sayAll ["", "> " ++ choice.text]).performed (.select choice)))
  /-- Any other number is refused. -/
  | refused {number : Int} (read : Literal.integer? (understood line) = .ok number)
      (picked : picked? choices number = none) :
      Reply c choices line (some (c.say "Invalid choice."))
  | quit (word : (understood line).all Text.isDigitLike = false)
      (quits : String.ofList (understood line) = "quit" ∨ String.ofList (understood line) = "q") :
      Reply c choices line none
  /-- Any other word is a command, if only an unknown one. -/
  | obeyed (word : (understood line).all Text.isDigitLike = false) {d : Console}
      (obeyed : c.obey (String.ofList (understood line)) = .ok d) : Reply c choices line (some d)

/-- What was done with a console to go on with. -/
theorem ok_of_map_some {x : Except Crash Console} {next : Option Console}
    (h : x.map some = .ok next) : ∃ d, x = .ok d ∧ next = some d := by
  cases x with
  | error crash => contradiction
  | ok d => exact ⟨d, rfl, (Except.ok.inj h).symm⟩

theorem reply_of_choose (chosen : c.choose choices (understood line) = .ok d) :
    Reply c choices line (some d) := by
  unfold choose at chosen
  split at chosen
  · exact absurd chosen nofun
  · rename_i number read
    split at chosen
    · rename_i choice picked
      rw [perform_eq] at chosen
      split at chosen
      · obtain rfl := Except.ok.inj chosen
        exact .selected read picked
      · exact absurd chosen nofun
    · rename_i picked
      obtain rfl := Except.ok.inj chosen
      exact .refused read picked

/-- Whatever does not break a console off where choices are offered is one of these answers. -/
theorem reply_of_react (offered : choices ≠ []) {next : Option Console}
    (reacted : c.react choices line = .ok next) : Reply c choices line next := by
  cases reaction_react c choices line with
  | read blank free eq => exact absurd free offered
  | reminded blank _ eq =>
    rw [← Except.ok.inj (eq.symm.trans reacted)]
    exact .reminded blank
  | picked said digits _ eq =>
    obtain ⟨d, chosen, rfl⟩ := ok_of_map_some (eq.symm.trans reacted)
    exact reply_of_choose chosen
  | quit said word eq =>
    have word : (understood line).all Text.isDigitLike = false := by
      simpa using fun digits => offered (word digits)
    obtain rfl := Except.ok.inj (eq.symm.trans reacted)
    refine .quit word ?_
    by_contra stays
    have said : understood line = (String.ofList (understood line)).toList :=
      String.toList_ofList.symm
    have obeyed := react_of_word c choices said (by rw [← said]; exact word) (not_or.mp stays)
    obtain ⟨d, -, none⟩ := ok_of_map_some (obeyed.symm.trans eq)
    exact absurd none.symm (Option.some_ne_none d)
  | obeyed said word eq =>
    have word : (understood line).all Text.isDigitLike = false := by
      simpa using fun digits => offered (word digits)
    obtain ⟨d, obeyed, rfl⟩ := ok_of_map_some (eq.symm.trans reacted)
    exact .obeyed word obeyed

/-- A typed line makes one choice at most. -/
theorem Agenda.choices_le_one (agenda : Agenda c choices line commands) :
    commands.countP Command.isChoice ≤ 1 := by
  cases agenda with
  | reads => exact Nat.zero_le _
  | picks offered => exact Nat.le_refl _
  | loads word found read => exact Nat.zero_le _

end Console

namespace Phase

open Console

variable {m n start : Phase × List String} {bound commands : List Command} {crash : Crash}

/-! ## 4. Room for the lines to come -/

/-- **The invariant of the loops**: a moderate game on a console within a limit that leaves room for
one choice for each line that is still to be typed, and for one more. -/
structure Roomy (initial stride limit : Nat) (m : Phase × List String) : Prop where
  modest : m.1.console.game.Modest initial stride
  begins : initial < limit
  within : m.1.console.Within limit
  room : limit + (m.2.length + 1) * stride < nearLimit

/-- **There are no more choices than lines.** -/
theorem Agenda.choices_le (agenda : Agenda m bound) :
    bound.countP Command.isChoice ≤ m.2.length := by
  cases agenda with
  | opens => exact Nat.zero_le _
  | shows => exact Nat.zero_le _
  | rests => exact Nat.zero_le _
  | reacts agenda => exact Nat.le_trans agenda.choices_le_one (Nat.le_add_left ..)

/-- A line that makes a choice is used up by it. -/
theorem Agenda.choices_add_le (agenda : Agenda m bound) (next : step m = .ok n) :
    bound.countP Command.isChoice + n.2.length ≤ m.2.length := by
  have stepped := stepped_of_step next
  have fewer := length_le_of_stepped stepped
  cases agenda with
  | opens => simpa [Command.isChoice] using fewer
  | shows => simpa [Command.isChoice] using fewer
  | rests => simpa using fewer
  | @reacts c choices line rest bound agenda =>
    have one := agenda.choices_le_one
    cases stepped with
    | reacted done => simp only [List.length_cons]; omega
    | left quit => simp only [List.length_cons]; omega

theorem Roomy.step (h : Roomy initial stride limit m) (sound : m.1.Sound)
    (next : Phase.step m = .ok n) : ∃ limit, Roomy initial stride limit n := by
  obtain ⟨bound, commands, agenda, within, deeds⟩ := deeds_of_step sound next
  have fewer : drift stride commands + (n.2.length + 1) * stride ≤ (m.2.length + 1) * stride := by
    rw [drift, ← Nat.add_mul]
    refine Nat.mul_le_mul_right _ ?_
    have used := agenda.choices_add_le next
    have least := within.countP_le (p := Command.isChoice)
    omega
  have room := h.room
  refine ⟨limit + drift stride commands, ?_, ?_, ?_, ?_⟩
  · rw [deeds.fixed.1]
    exact h.modest
  · exact Nat.lt_of_lt_of_le h.begins (Nat.le_add_right ..)
  · exact h.within.deeds h.modest h.begins deeds (by omega)
  · omega

theorem Roomy.reaches (h : Roomy initial stride limit m) (sound : m.1.Sound) (path : Reaches m n) :
    ∃ limit, Roomy initial stride limit n := by
  induction path with
  | refl => exact ⟨limit, h⟩
  | tail before last ih =>
    obtain ⟨more, h⟩ := ih
    exact h.step (sound.reaches before) last

/-- **A step is broken off by a garbled line only.** -/
theorem Roomy.garbled (h : Roomy initial stride limit m) (sound : m.1.Sound)
    (broken : Phase.step m = .error crash) : Garbled m := by
  by_contra clear
  obtain ⟨bound, commands, d, agenda, within, deeds, breaks⟩ := breaks_of_step sound broken clear
  have fewer : drift stride commands + stride ≤ (m.2.length + 1) * stride := by
    rw [drift, Nat.add_mul, Nat.one_mul]
    refine Nat.add_le_add_right (Nat.mul_le_mul_right _ ?_) _
    exact Nat.le_trans within.countP_le agenda.choices_le
  have room := h.room
  have left : d.Within (limit + drift stride commands) :=
    h.within.deeds h.modest h.begins deeds (by omega)
  have modest : d.game.Modest initial stride := by
    rw [deeds.fixed.1]
    exact h.modest
  exact left.not_breaks modest (Nat.lt_of_lt_of_le h.begins (Nat.le_add_right ..)) (by omega) crash
    breaks

/-! ## 5. Whole runs -/

/-- A run comes to a line that looks like a number and cannot be read as one, and choices are
offered there. -/
def Stumbles (c : Console) (lines : List String) : Prop :=
  ∃ d choices line rest, Reaches (.opening c, lines) (.paused d (.command choices), line :: rest) ∧
    choices ≠ [] ∧ Unreadable line

/-- **What cannot break a console off**, and what can. -/
structure Robust (c : Console) (lines : List String) : Prop where
  /-- A run is broken off exactly if it comes to a line that looks like a number and is none. -/
  breaks : (∃ crash, c.run lines = .error crash) ↔ Stumbles c lines
  /-- So it comes to its end if there is no such line. -/
  ends : (∀ line ∈ lines, ¬ Unreadable line) → ∃ result, c.run lines = .ok result
  /-- Where choices are offered, they are shown, and every other line is answered. -/
  replies : ∀ {d choices line rest},
    Reaches (.opening c, lines) (.paused d (.command choices), line :: rest) →
    choices ≠ [] → ¬ Unreadable line →
    Choosing d choices ∧ ∃ next, Reply (d.note commandPrompt (some line)) choices line next ∧
      step (.paused d (.command choices), line :: rest) = .ok (match next with
        | some e => (.round e, rest)
        | none => (.paused (d.note commandPrompt (some line)).leave.1 .done, rest))

/-- Where the loops meet a garbled line. -/
theorem garbled_cases (garbled : Garbled m) : ∃ d choices line rest,
    m = (.paused d (.command choices), line :: rest) ∧ choices ≠ [] ∧ Unreadable line := by
  obtain ⟨phase, lines⟩ := m
  cases phase with
  | opening d => exact absurd garbled id
  | round d => exact absurd garbled id
  | paused d pause =>
    cases pause with
    | done => exact absurd garbled id
    | again => exact absurd garbled id
    | command choices =>
      cases lines with
      | nil => exact absurd garbled id
      | cons line rest =>
        obtain ⟨offered, unreadable⟩ := garbled_iff.mp garbled
        exact ⟨d, choices, line, rest, rfl, offered, unreadable⟩

/-- What is answered is shown next. -/
theorem step_of_react {c : Console} {choices : List Choice} {line : String}
    {reaction : Except Crash (Option Console)}
    (reacted : (c.note commandPrompt (some line)).react choices line = reaction)
    (rest : List String) :
    step (.paused c (.command choices), line :: rest) = reaction.map fun
      | some next => (.round next, rest)
      | none => (.paused (c.note commandPrompt (some line)).leave.1 .done, rest) := by
  simp only [step, reacted]
  cases reaction with
  | error crash => rfl
  | ok next => cases next <;> rfl

theorem Roomy.robust {c : Console} {lines : List String} (attached : c.Attached)
    (roomy : Roomy initial stride limit (.opening c, lines)) : Robust c lines := by
  have sound : (opening c).Sound := attached
  have garbled {m : Phase × List String} {crash : Crash} (path : Reaches (.opening c, lines) m)
      (broken : Phase.step m = .error crash) : Garbled m := by
    obtain ⟨limit, roomy⟩ := roomy.reaches sound path
    exact roomy.garbled (sound.reaches path) broken
  have stumbles {crash : Crash} (broken : c.run lines = .error crash) : Stumbles c lines := by
    obtain ⟨m, path, broken⟩ := (run_eq_error_iff attached lines).mp broken
    obtain ⟨d, choices, line, rest, rfl, flaw⟩ := garbled_cases (garbled path broken)
    exact ⟨d, choices, line, rest, path, flaw⟩
  refine ⟨⟨fun ⟨crash, broken⟩ => stumbles broken, ?_⟩, fun readable => ?_, ?_⟩
  · rintro ⟨d, choices, line, rest, path, flaw⟩
    obtain ⟨prompt, answer, fault, broken⟩ := step_of_garbled
      (m := (.paused d (.command choices), line :: rest)) (garbled_iff.mpr flaw)
    exact ⟨_, (run_eq_error_iff attached lines).mpr ⟨_, path, broken⟩⟩
  · cases played : c.run lines with
    | ok result => exact ⟨result, rfl⟩
    | error crash =>
      obtain ⟨d, choices, line, rest, path, -, unreadable⟩ := stumbles played
      have typed : line ∈ lines := (suffix_of_reaches path).subset (List.mem_cons_self ..)
      exact absurd unreadable (readable line typed)
  · intro d choices line rest path offered readable
    have resting : Resting d (.command choices) := sound.reaches path
    refine ⟨(resting.prompting choices rfl).choosing offered, ?_⟩
    cases reacted : (d.note commandPrompt (some line)).react choices line with
    | ok next => exact ⟨next, reply_of_react offered reacted, step_of_react reacted rest⟩
    | error crash =>
      obtain ⟨-, unreadable⟩ := garbled_iff.mp (garbled path (step_of_react reacted rest))
      exact absurd unreadable readable

/-- **A console with a moderate game and a harmless save file is robust**: no line breaks it off but
one that looks like a number and is none.  That the screen shows whatever the console tells it, is
assumed with consoles (`Console.tell`). -/
theorem robust_of_fresh (game : Game) (manifest : Manifest) (savePath : Path)
    (files : FileTree Bytes) (source : Source) (reports : Option (List Report))
    (lines : List String) (modest : game.Modest initial stride) (usable : savePath.Usable)
    (harmless : ∀ content, files.find savePath = .file content → Harmless (initial + 1) content)
    (room : initial + 1 + (lines.length + 1) * stride < nearLimit) :
    Robust (fresh game manifest savePath files source reports) lines := by
  have session : (fresh game manifest savePath files source reports).session.Within (initial + 1) :=
    ⟨rfl, Table.all_empty, nofun⟩
  have standing : Session.Standing game
      (fresh game manifest savePath files source reports).session :=
    (Session.standing_fresh source).of_place rfl rfl rfl rfl
  exact Roomy.robust (attached_fresh game manifest savePath files source reports)
    ⟨modest, Nat.lt_succ_self _, ⟨standing, session, usable, harmless⟩, room⟩

/-- The numbers at the crossroads are moderate. -/
theorem modest_crossroads : crossroads.Modest 1 2 where
  config := rfl
  lines := by decide +kernel
  scenes := by decide +kernel
  defs := by decide +kernel
  destinations := by decide +kernel
  short := by decide +kernel
  small := by decide +kernel

/-- On the road: no save file is there, and all the numbers are small. -/
theorem robust_at_road :
    crossroads.Modest 1 2 ∧ (Path.ofText "save.json").Usable ∧ Robust atRoad ["", "x", "2"] := by
  have modest := modest_crossroads
  have usable : (Path.ofText "save.json").Usable :=
    ⟨by decide +kernel, by decide +kernel, by decide +kernel⟩
  refine ⟨modest, usable, robust_of_fresh crossroads _ _ _ _ _ _ modest usable ?_ ?_⟩
  · have missing : (match ({} : FileTree Bytes).find (Path.ofText "save.json") with
        | .missing => true
        | _ => false) = true := by
      decide +kernel
    intro content found
    rw [found] at missing
    exact absurd missing Bool.false_ne_true
  · decide +kernel

/-- **A line that breaks a console off**: the story has no problems, its numbers are small, and what
is typed at the fork looks like a number. -/
theorem broken_off_at_fork :
    (crossroads.story.review crossroads.config = .ok [] ∧ crossroads.Modest 1 2) ∧
      ∃ crash, atRoad.run ["", "²"] = .error crash ∧ crash.fault = .malformedInteger := by
  refine ⟨⟨?_, modest_crossroads⟩, ?_⟩
  · decide +kernel
  · have computed : (match atRoad.run ["", "²"] with
        | .error crash => decide (crash.fault = .malformedInteger)
        | .ok _ => false) = true := by
      decide +kernel
    cases played : atRoad.run ["", "²"] with
    | error crash =>
      rw [played] at computed
      exact ⟨crash, rfl, of_decide_eq_true computed⟩
    | ok result =>
      rw [played] at computed
      exact absurd computed Bool.false_ne_true

end Phase
end Gamebook

/-
# What a console does, deed by deed

A console shows things, notes what was asked, saves, and carries out commands.  This file takes
everything that it does apart into such deeds (`Deed`, `Deeds`), so that what holds of a console at
every moment is proved by one case for each kind of deed, and never by opening the functions.

* A deed is no command, or a command that is due (`Due`): a choice that is open, a save that stands
  in the save file.
* `Leads` says that a function comes to its result by deeds, or is broken off on the way; `Breaks`
  lists the reasons.  There is one lemma for each function, which also bounds the commands that it
  carries out.
* `Phase.leads_step` puts them together for a step of the loops.  Only one reason to break off is
  left out there, a line that is garbled: it looks like a number and cannot be read as one.
-/
import Gamebook.Proofs.Console.Prompts

namespace Gamebook

namespace Console

variable {c d e : Console} {commands more : List Command}

/-! ## 1. Deeds -/

/-- The console as a command leaves it, be it with a fault or without. -/
def performed (c : Console) (command : Command) : Console :=
  let outcome := command.run c.game c.session
  { c with
    session := outcome.session
    reports := c.reports.map (· ++ outcome.reports)
    outdated := c.outdated || outcome.called.contains listener }

/-- **The commands that a console may carry out** at a moment: of choices only those that are open,
and of saves only the one that is read from the save file. -/
inductive Due (c : Console) : Command → Prop
  | start : Due c .start
  | advance : Due c .advance
  | complete : Due c .complete
  | select {choice : Choice} (isOpen : choice ∈ c.session.openChoices c.game) :
      Due c (.select choice)
  | load {content : Bytes} {save : Save} (found : c.files.find c.savePath = .file content)
      (read : Save.ofBytes content = .ok save) : Due c (.load save)

/-- **One thing that a console does**, apart from commands. -/
inductive Deed : Console → Console → Prop
  | tells (c : Console) (message : Message) : Deed c (c.tell message)
  | notes (c : Console) (prompt : String) (answer : Option String) : Deed c (c.note prompt answer)
  | heads (c : Console) (headed : Option Text) : Deed c { c with headed }
  | marks (c : Console) (outdated : Bool) : Deed c { c with outdated }
  | writes (c : Console) {files : FileTree Bytes}
      (written : c.files.write c.savePath (Utf8.encode c.session.save.written.1.toList) =
        .ok files) : Deed c { c with files }

/-- **What a console does**, one thing after another, with the commands that it carries out. -/
inductive Deeds : Console → List Command → Console → Prop
  | nothing (c : Console) : Deeds c [] c
  | deed {c d e : Console} {commands : List Command} (first : Deed c d)
      (rest : Deeds d commands e) : Deeds c commands e
  | command {c e : Console} {command : Command} {commands : List Command} (due : Due c command)
      (rest : Deeds (c.performed command) commands e) : Deeds c (command :: commands) e

theorem Deed.deeds (h : Deed c d) : Deeds c [] d := .deed h (.nothing d)

theorem Deeds.trans (h : Deeds c commands d) (h' : Deeds d more e) :
    Deeds c (commands ++ more) e := by
  induction h with
  | nothing c => exact h'
  | deed first _ ih => exact .deed first (ih h')
  | command due _ ih => exact .command due (ih h')

/-- After some deeds without commands. -/
theorem Deeds.after (h : Deeds c [] d) (h' : Deeds d commands e) : Deeds c commands e := h.trans h'

/-- Before the first command there are only other deeds. -/
theorem Deeds.split {command : Command} (h : Deeds c (command :: commands) e) :
    ∃ d, Deeds c [] d ∧ Due d command ∧ Deeds (d.performed command) commands e := by
  generalize eq : command :: commands = all at h
  induction h with
  | nothing c => contradiction
  | deed first _ ih =>
    obtain ⟨d, before, due, after⟩ := ih eq
    exact ⟨d, .deed first before, due, after⟩
  | command due rest =>
    cases eq
    exact ⟨_, .nothing _, due, rest⟩

/-- Deeds without commands leave the session and the reports as they are. -/
theorem Deeds.same (h : Deeds c [] d) : d.session = c.session ∧ d.reports = c.reports := by
  generalize none : [] = commands at h
  induction h with
  | nothing c => exact ⟨rfl, rfl⟩
  | deed first _ ih =>
    obtain ⟨session, reports⟩ := ih none
    cases first <;> exact ⟨session, reports⟩
  | command => contradiction

/-- Nothing that a console does changes its game or the path of its save file. -/
theorem Deeds.fixed (h : Deeds c commands d) : d.game = c.game ∧ d.savePath = c.savePath := by
  induction h with
  | nothing c => exact ⟨rfl, rfl⟩
  | deed first _ ih => cases first <;> exact ih
  | command _ _ ih => exact ih

/-- What is done with one command at most: nothing to the session, or that command. -/
theorem Deeds.single {command : Command} (h : Deeds c commands e)
    (within : commands.Sublist [command]) :
    (e.session = c.session ∧ e.reports = c.reports) ∨
      ∃ d, d.session = c.session ∧ d.reports = c.reports ∧ d.game = c.game ∧ Due d command ∧
        e.session = (d.performed command).session ∧
        e.reports = (d.performed command).reports := by
  rcases List.sublist_singleton.mp within with rfl | rfl
  · exact .inl h.same
  · obtain ⟨d, before, due, after⟩ := h.split
    exact .inr ⟨d, before.same.1, before.same.2, before.fixed.1, due, after.same.1, after.same.2⟩

/-- **Why a console is broken off**, and as what it is left. -/
inductive Breaks (c : Console) : Crash → Prop
  | percent {fault : Fault} (broken : c.percent = .error fault) : Breaks c ⟨c, fault⟩
  | header {percent : Int} (found : c.percent = .ok percent)
      (overlong : (Number.int percent).isOverlong = true) : Breaks c ⟨c.say "", .tooManyDigits⟩
  | values
      (overlong : c.session.store.entries.any (fun (_, value) => value.isOverlong) = true) :
      Breaks c ⟨c, .tooManyDigits⟩
  | path {content : Bytes} (refused : c.files.write c.savePath content = .error .badPath) :
      Breaks c ⟨c, .badPath⟩
  | save {fault : Fault} (broken : c.session.save.written.2 = some fault) : Breaks c ⟨c, fault⟩
  | long (found : c.files.find c.savePath = .tooLong) : Breaks c ⟨c, .pathTooLong⟩
  | file {content : Bytes} {reason : Save.Unreadable} {fault : Fault}
      (found : c.files.find c.savePath = .file content)
      (refused : Save.ofBytes content = .error reason) (ends : reason.fault? = some fault) :
      Breaks c ⟨c, fault⟩
  | command {command : Command} {fault : Fault} (due : Due c command)
      (failed : (command.run c.game c.session).fault = some fault) :
      Breaks c ⟨c.performed command, fault⟩

/-- **What something comes to that a console does**: it is done, with a console `place` of its
result, or it is broken off.  On the way no other commands are carried out than those of the list,
in their order. -/
inductive Leads {α : Type} (place : α → Console) (c : Console) (bound : List Command) :
    Except Crash α → Prop
  | done {a : α} {commands : List Command} (within : commands.Sublist bound)
      (deeds : Deeds c commands (place a)) : Leads place c bound (.ok a)
  | broken {d : Console} {crash : Crash} {commands : List Command}
      (within : commands.Sublist bound) (deeds : Deeds c commands d) (breaks : Breaks d crash) :
      Leads place c bound (.error crash)

section

variable {α β : Type} {place : α → Console} {place' : β → Console} {bound bound' : List Command}
  {x : Except Crash α}

theorem Deeds.leads (h : Deeds c commands d) : Leads id c commands (.ok d) :=
  .done (List.Sublist.refl _) h

theorem Deeds.leads_fst (h : Deeds c commands d) (a : α) :
    Leads Prod.fst c commands (.ok (d, a)) :=
  .done (List.Sublist.refl _) h

theorem Breaks.leads {crash : Crash} (h : Breaks c crash) : Leads place c [] (.error crash) :=
  .broken (List.Sublist.refl _) (.nothing c) h

theorem Leads.after (h : Deeds c [] d) (h' : Leads place d bound x) : Leads place c bound x := by
  cases h' with
  | done within deeds => exact .done within (h.after deeds)
  | broken within deeds breaks => exact .broken within (h.after deeds) breaks

theorem Leads.mono (h : Leads place c bound x) (within : bound.Sublist bound') :
    Leads place c bound' x := by
  cases h with
  | done within' deeds => exact .done (within'.trans within) deeds
  | broken within' deeds breaks => exact .broken (within'.trans within) deeds breaks

/-- **One thing after another.** -/
theorem Leads.bind {f : α → Except Crash β} (h : Leads place c bound x)
    (next : ∀ a, x = .ok a → Leads place' (place a) bound' (f a)) :
    Leads place' c (bound ++ bound') (x >>= f) := by
  cases h with
  | @done a commands within deeds =>
    change Leads place' c (bound ++ bound') (f a)
    cases x : f a with
    | ok b =>
      have next := next a rfl
      rw [x] at next
      cases next with
      | done within' deeds' => exact .done (within.append within') (deeds.trans deeds')
    | error crash =>
      have next := next a rfl
      rw [x] at next
      cases next with
      | broken within' deeds' breaks =>
        exact .broken (within.append within') (deeds.trans deeds') breaks
  | broken within deeds breaks =>
    exact .broken (within.trans (List.sublist_append_left ..)) deeds breaks

end

/-! ## 2. Showing -/

theorem deeds_tell (c : Console) (message : Message) : Deeds c [] (c.tell message) :=
  (Deed.tells c message).deeds

theorem deeds_note (c : Console) (prompt : String) (answer : Option String) :
    Deeds c [] (c.note prompt answer) := (Deed.notes c prompt answer).deeds

theorem deeds_sayAll (c : Console) (lines : List Text) : Deeds c [] (c.sayAll lines) := by
  induction lines generalizing c with
  | nil => exact .nothing c
  | cons line rest ih => exact (deeds_tell c (.line line)).after (ih (c.say line))

theorem deeds_showLine (c : Console) : Deeds c [] c.showLine := by
  unfold showLine
  split
  · split
    · exact .nothing c
    · exact deeds_tell c _
  · exact .nothing c

theorem deeds_leave (c : Console) : Deeds c [] c.leave.1 := deeds_sayAll c _

theorem deeds_close (c : Console) (pause : Pause) : Deeds c [] (c.close pause) := by
  cases pause with
  | command choices => exact (deeds_note c _ _).after (deeds_leave _)
  | again => exact (deeds_note c _ _).after (deeds_tell _ _)
  | done => exact .nothing c

theorem leads_showHeader (c : Console) : Leads id c [] c.showHeader := by
  unfold showHeader
  split
  · exact (Deeds.nothing c).leads
  · rename_i scene _
    split
    · exact (Deeds.nothing c).leads
    · have headed := (Deed.heads c (some scene.id)).deeds
      simp only
      split
      · rename_i fault broken
        exact (Breaks.percent broken).leads.after headed
      · rename_i percent found
        split
        · rename_i overlong
          exact (Breaks.header found overlong).leads.after headed
        · exact (deeds_sayAll _ _).leads.after headed

theorem leads_showVariables (c : Console) : Leads id c [] c.showVariables := by
  unfold showVariables
  simp only
  split
  · rename_i overlong
    exact (Breaks.values overlong).leads
  · exact (deeds_tell c _).leads

theorem leads_showEnding (c : Console) : Leads id c [] c.showEnding :=
  (leads_showVariables _).after ((deeds_sayAll c _).after (deeds_sayAll _ _))

/-! ## 3. Performing -/

theorem perform_eq (c : Console) (command : Command) :
    c.perform command =
      match (command.run c.game c.session).fault with
      | none => .ok (c.performed command)
      | some fault => .error ⟨c.performed command, fault⟩ := rfl

theorem leads_perform {command : Command} (due : Due c command) :
    Leads id c [command] (c.perform command) := by
  rw [perform_eq]
  split
  · exact (Deeds.command due (.nothing _)).leads
  · rename_i fault failed
    exact (Breaks.command due failed).leads.mono (List.nil_sublist _)

theorem leads_cross (c : Console) : Leads id c [.complete] c.cross := by
  unfold cross
  split
  · exact (Deeds.nothing c).leads.mono (List.nil_sublist _)
  · refine (leads_perform .complete).after ?_
    split
    · exact .nothing c
    · exact deeds_sayAll c _

theorem leads_refresh (c : Console) : Leads id c [.complete] c.refresh := by
  unfold refresh
  split
  · exact (Deeds.nothing c).leads.mono (List.nil_sublist _)
  · refine ((leads_showHeader _).bind fun d _ => ?_).after (Deed.marks c false).deeds
    simp only [id]
    split
    · exact (deeds_tell d _).leads.mono (List.nil_sublist _)
    · split
      · exact leads_cross d
      · exact (deeds_showLine d).leads.mono (List.nil_sublist _)

theorem leads_halt (c : Console) : Leads Prod.fst c [] c.halt := by
  unfold halt
  split
  · split
    · exact (leads_showEnding c).bind fun d _ => (Deeds.nothing d).leads_fst _
    · exact ((deeds_sayAll c _).after (deeds_leave _)).leads_fst _
  · split
    · exact (deeds_sayAll c _).leads_fst _
    · exact (Deeds.nothing c).leads_fst _

theorem leads_startSession (c : Console) : Leads id c [.start] c.startSession := by
  have titled : Deeds c [] { c.showTitle with headed := none } :=
    (deeds_sayAll c _).after (Deed.heads _ none).deeds
  exact ((leads_perform .start).bind fun d _ => (Deed.marks d true).deeds.leads).after titled

theorem leads_readOn (c : Console) : Leads id c [.advance, .complete] c.readOn := by
  refine (leads_perform .advance).bind fun d _ => ?_
  split
  · exact leads_cross d
  · exact (Deeds.nothing d).leads.mono (List.nil_sublist _)

theorem leads_store (c : Console) : Leads id c [] c.store := by
  unfold store
  simp only
  split
  · rename_i refused
    exact (Breaks.path refused).leads
  · exact (deeds_tell c _).leads
  · rename_i files written
    have deeds := (Deed.writes c written).deeds
    split
    · rename_i fault broken
      exact (Breaks.save (c := { c with files }) broken).leads.after deeds
    · exact (deeds_tell _ _).leads.after deeds

/-- Only a save that is accepted is loaded. -/
theorem leads_restore (c : Console) :
    (∃ content save, c.files.find c.savePath = .file content ∧ Save.ofBytes content = .ok save ∧
      Leads id c [.load save] c.restore) ∨ Leads id c [] c.restore := by
  unfold restore
  split
  · exact .inr (deeds_tell c _).leads
  · exact .inr (deeds_tell c _).leads
  · rename_i found
    exact .inr (Breaks.long found).leads
  · exact .inr (deeds_tell c _).leads
  · rename_i content found
    split
    · rename_i reason refused
      split
      · rename_i fault ends
        exact .inr (Breaks.file found refused ends).leads
      · exact .inr (deeds_tell c _).leads
    · rename_i save read
      refine .inl ⟨content, save, found, read, Leads.after (Deed.heads c none).deeds ?_⟩
      have due : Due { c with headed := none } (.load save) := .load found read
      exact (leads_perform due).bind fun d _ => (deeds_tell d _).leads

/-! ## 4. Typed lines -/

/-- The commands that a typed line may have carried out: at most these, in this order. -/
inductive Agenda (c : Console) (choices : List Choice) (line : String) : List Command → Prop
  | reads : Agenda c choices line [.advance, .complete]
  | picks {choice : Choice} (offered : choice ∈ choices) : Agenda c choices line [.select choice]
  | loads {content : Bytes} {save : Save} (word : understood line = "load".toList)
      (found : c.files.find c.savePath = .file content) (read : Save.ofBytes content = .ok save) :
      Agenda c choices line [.load save]

/-- **A line with digits that cannot be read as a number**, where a number is expected. -/
def Garbled (choices : List Choice) (line : String) : Prop :=
  choices ≠ [] ∧ understood line ≠ [] ∧ (understood line).all Text.isDigitLike = true ∧
    ∃ fault, Literal.integer? (understood line) = .error fault

theorem mem_of_picked? {choices : List Choice} {number : Int} {choice : Choice}
    (picked : picked? choices number = some choice) : choice ∈ choices := by
  unfold picked? at picked
  split at picked
  · exact List.mem_of_getElem? picked
  · contradiction

theorem leads_choose {choices : List Choice} {digits : List Char} {number : Int}
    (read : Literal.integer? digits = .ok number)
    (offered : ∀ choice ∈ choices, choice ∈ c.session.openChoices c.game) :
    (∃ choice ∈ choices, Leads id c [.select choice] (c.choose choices digits)) ∨
      Leads id c [] (c.choose choices digits) := by
  unfold choose
  rw [read]
  simp only
  split
  · rename_i choice picked
    have mem := mem_of_picked? picked
    have said := deeds_sayAll c ["", "> " ++ choice.text]
    have shows := shows_sayAll c ["", "> " ++ choice.text]
    refine .inl ⟨choice, mem, (leads_perform (.select ?_)).after said⟩
    rw [shows.session, shows.game]
    exact offered choice mem
  · exact .inr (deeds_tell c _).leads

theorem leads_obey (c : Console) (word : String) :
    (word = "load" ∧ c.obey word = c.restore) ∨ Leads id c [] (c.obey word) := by
  unfold obey
  split
  · exact .inr (deeds_sayAll c _).leads
  · split
    · exact .inr (deeds_sayAll c _).leads
    · split
      · exact .inr (leads_showVariables c)
      · split
        · exact .inr (leads_store c)
        · split
          · rename_i word
            exact .inl ⟨word, rfl⟩
          · exact .inr (deeds_tell c _).leads

/-- **What a typed line leads to**, unless it is garbled. -/
theorem leads_react {choices : List Choice} {line : String} (clear : ¬ Garbled choices line)
    (offered : ∀ choice ∈ choices, choice ∈ c.session.openChoices c.game) :
    ∃ bound, Agenda c choices line bound ∧
      Leads (fun next => next.getD c) c bound (c.react choices line) := by
  have gone : ∀ {bound} {x : Except Crash Console}, Leads id c bound x →
      Leads (fun next : Option Console => next.getD c) c bound (x.map some) := by
    intro bound x h
    cases h with
    | done within deeds => exact .done within deeds
    | broken within deeds breaks => exact .broken within deeds breaks
  cases reaction_react c choices line with
  | read blank free eq => exact ⟨_, .reads, eq ▸ gone (leads_readOn c)⟩
  | reminded blank some eq =>
    exact ⟨_, .reads, eq ▸ .done (List.nil_sublist _) (deeds_tell c _)⟩
  | picked said digits some eq =>
    rw [eq]
    cases read : Literal.integer? (understood line) with
    | error fault => exact absurd ⟨some, said, digits, fault, read⟩ clear
    | ok number =>
      rcases leads_choose read offered with ⟨choice, mem, leads⟩ | leads
      · exact ⟨_, .picks mem, gone leads⟩
      · exact ⟨_, .reads, (gone leads).mono (List.nil_sublist _)⟩
  | quit said word eq => exact ⟨_, .reads, eq ▸ .done (List.nil_sublist _) (.nothing c)⟩
  | obeyed said word eq =>
    rw [eq]
    rcases leads_obey c (String.ofList (understood line)) with ⟨word, restored⟩ | leads
    · rw [restored]
      have word : understood line = "load".toList := by
        rw [← word, String.toList_ofList]
      rcases leads_restore c with ⟨content, save, found, read, leads⟩ | leads
      · exact ⟨_, .loads word found read, gone leads⟩
      · exact ⟨_, .reads, (gone leads).mono (List.nil_sublist _)⟩
    · exact ⟨_, .reads, (gone leads).mono (List.nil_sublist _)⟩

/-- A garbled line breaks a console off before anything is done. -/
theorem react_of_garbled {choices : List Choice} {line : String} (garbled : Garbled choices line) :
    ∃ fault, c.react choices line = .error ⟨c, fault⟩ := by
  obtain ⟨some, said, digits, fault, read⟩ := garbled
  refine ⟨fault, ?_⟩
  cases reaction_react c choices line with
  | read blank free eq => exact absurd blank said
  | reminded blank _ eq => exact absurd blank said
  | picked _ _ _ eq =>
    rw [eq, choose, read]
    rfl
  | quit _ word eq => exact absurd (word digits) some
  | obeyed _ word eq => exact absurd (word digits) some

end Console

/-! ## 5. Steps -/

namespace Phase

open Console

variable {m n : Phase × List String} {crash : Crash}

/-- The commands that a step of the loops may carry out: at most these, in this order. -/
inductive Agenda : Phase × List String → List Command → Prop
  | opens {c : Console} {lines : List String} : Agenda (.opening c, lines) [.start]
  | shows {c : Console} {lines : List String} : Agenda (.round c, lines) [.complete]
  | rests {c : Console} {pause : Pause} {lines : List String} : Agenda (.paused c pause, lines) []
  | reacts {c : Console} {choices : List Choice} {line : String} {rest : List String}
      {bound : List Command}
      (agenda : Console.Agenda (c.note commandPrompt (some line)) choices line bound) :
      Agenda (.paused c (.command choices), line :: rest) bound

/-- The next line to be typed is garbled. -/
def Garbled : Phase × List String → Prop
  | (.paused _ (.command choices), line :: _) => Console.Garbled choices line
  | _ => False

theorem leads_round (c : Console) :
    Leads (fun phase : Phase => phase.console) c [.complete] c.round := by
  refine (leads_refresh c).bind fun d _ => ?_
  split
  · exact .done (List.Sublist.refl _) (.nothing d)
  · refine (leads_halt d).bind fun result _ => ?_
    exact .done (List.Sublist.refl _) (.nothing result.1)

/-- Where a console asks for a command, the choices that it offers are open. -/
theorem isOpen_of_resting {c : Console} {choices : List Choice}
    (resting : Resting c (.command choices)) :
    ∀ choice ∈ choices, choice ∈ c.session.openChoices c.game := by
  intro choice mem
  rw [(resting.prompting choices rfl).offered] at mem
  split at mem
  · exact mem
  · contradiction

/-- **What a step of the loops leads to**, unless the line that is typed is garbled. -/
theorem leads_step (sound : m.1.Sound) (clear : ¬ Garbled m) :
    ∃ bound, Agenda m bound ∧ Leads (fun n => n.1.console) m.1.console bound (step m) := by
  obtain ⟨phase, lines⟩ := m
  cases phase with
  | opening c =>
    refine ⟨_, .opens, (leads_startSession c).bind fun d _ => ?_⟩
    exact .done (List.Sublist.refl _) (.nothing d)
  | round c =>
    refine ⟨_, .shows, (leads_round c).bind fun next _ => ?_⟩
    exact .done (List.Sublist.refl _) (.nothing next.console)
  | paused c pause =>
    cases pause with
    | done => exact ⟨_, .rests, .done (List.Sublist.refl _) (.nothing c)⟩
    | again =>
      cases lines with
      | nil => exact ⟨_, .rests, .done (List.Sublist.refl _) (deeds_close c .again)⟩
      | cons line rest =>
        refine ⟨_, .rests, ?_⟩
        have asked := deeds_note c againPrompt (some line)
        simp only [step]
        split
        · exact .done (List.Sublist.refl _) asked
        · exact .done (List.Sublist.refl _) (asked.after (deeds_tell _ _))
    | command choices =>
      cases lines with
      | nil => exact ⟨_, .rests, .done (List.Sublist.refl _) (deeds_close c (.command choices))⟩
      | cons line rest =>
        have resting : Resting c (.command choices) := sound
        have isOpen := isOpen_of_resting resting
        have asked := deeds_note c commandPrompt (some line)
        obtain ⟨bound, agenda, leads⟩ :=
          leads_react (c := c.note commandPrompt (some line)) clear isOpen
        refine ⟨bound, .reacts agenda, Leads.after asked ?_⟩
        rw [← List.append_nil bound]
        refine leads.bind fun next _ => ?_
        cases next with
        | some d => exact .done (List.Sublist.refl _) (.nothing d)
        | none => exact .done (List.Sublist.refl _) (deeds_leave _)

/-- A garbled line breaks the loops off before anything is done. -/
theorem step_of_garbled (garbled : Garbled m) :
    ∃ prompt answer fault, step m = .error ⟨m.1.console.note prompt answer, fault⟩ := by
  obtain ⟨phase, lines⟩ := m
  cases phase with
  | opening c => exact absurd garbled id
  | round c => exact absurd garbled id
  | paused c pause =>
    cases pause with
    | done => exact absurd garbled id
    | again => exact absurd garbled id
    | command choices =>
      cases lines with
      | nil => exact absurd garbled id
      | cons line rest =>
        obtain ⟨fault, broken⟩ :=
          react_of_garbled (c := c.note commandPrompt (some line)) garbled
        refine ⟨commandPrompt, some line, fault, ?_⟩
        simp only [step, broken]
        rfl

/-- What was done in a step. -/
theorem deeds_of_step (sound : m.1.Sound) (next : step m = .ok n) :
    ∃ bound commands, Agenda m bound ∧ commands.Sublist bound ∧
      Deeds m.1.console commands n.1.console := by
  by_cases clear : Garbled m
  · obtain ⟨prompt, answer, fault, broken⟩ := step_of_garbled clear
    rw [next] at broken
    contradiction
  · obtain ⟨bound, agenda, leads⟩ := leads_step sound clear
    rw [next] at leads
    cases leads with
    | done within deeds => exact ⟨bound, _, agenda, within, deeds⟩

/-- Where a step was broken off. -/
theorem breaks_of_step (sound : m.1.Sound) (broken : step m = .error crash)
    (clear : ¬ Garbled m) :
    ∃ bound commands d, Agenda m bound ∧ commands.Sublist bound ∧
      Deeds m.1.console commands d ∧ Breaks d crash := by
  obtain ⟨bound, agenda, leads⟩ := leads_step sound clear
  rw [broken] at leads
  cases leads with
  | broken within deeds breaks => exact ⟨bound, _, _, agenda, within, deeds, breaks⟩

/-! ## 6. Several steps -/

theorem steps_of_error (broken : step m = .error crash) (count : Nat) :
    steps (count + 1) m = .error crash := by
  rw [steps, broken]
  rfl

theorem steps_of_ok (next : step m = .ok n) (count : Nat) :
    steps (count + 1) m = steps count n := by
  rw [steps, next]
  rfl

theorem steps_add (count more : Nat) (m : Phase × List String) :
    steps (count + more) m = steps count m >>= steps more := by
  induction count generalizing m with
  | zero =>
    rw [Nat.zero_add, steps]
    rfl
  | succ count ih =>
    rw [Nat.add_right_comm]
    cases first : step m with
    | error crash =>
      rw [steps_of_error first, steps_of_error first]
      rfl
    | ok n => rw [steps_of_ok first, steps_of_ok first, ih]

/-- A console that is done stays so. -/
theorem steps_done (count : Nat) (result : Console × List String) :
    steps count (done result) = .ok (done result) := by
  induction count with
  | zero => rfl
  | succ count ih => exact (steps_of_ok rfl count).trans ih

theorem exists_steps (path : Reaches m n) : ∃ count, steps count m = .ok n := by
  induction path with
  | refl => exact ⟨0, rfl⟩
  | tail _ last ih =>
    obtain ⟨count, steps⟩ := ih
    refine ⟨count + 1, ?_⟩
    rw [steps_add, steps]
    exact steps_of_ok last 0

/-- Where steps are broken off. -/
theorem exists_step_of_steps {count : Nat} (broken : steps count m = .error crash) :
    ∃ n, Reaches m n ∧ step n = .error crash := by
  induction count generalizing m with
  | zero => contradiction
  | succ count ih =>
    cases first : step m with
    | error other =>
      rw [steps_of_error first] at broken
      exact ⟨m, .refl, first.trans broken⟩
    | ok next =>
      rw [steps_of_ok first] at broken
      obtain ⟨n, path, last⟩ := ih broken
      exact ⟨n, Relation.ReflTransGen.head first path, last⟩

/-- The question at which the loops stand, with the line that is typed next. -/
def asked? : Except Crash (Phase × List String) →
    Option (Console × List Choice × String × List String)
  | .ok (.paused c (.command choices), line :: rest) => some (c, choices, line, rest)
  | _ => none

theorem eq_of_asked? {result : Except Crash (Phase × List String)} {c : Console}
    {choices : List Choice} {line : String} {rest : List String}
    (asked : asked? result = some (c, choices, line, rest)) :
    result = .ok (.paused c (.command choices), line :: rest) := by
  unfold asked? at asked
  split at asked
  · cases asked
    rfl
  · contradiction

/-- **A run is broken off where its steps are.** -/
theorem run_eq_error_iff {c : Console} (attached : c.Attached) (lines : List String) :
    c.run lines = .error crash ↔
      ∃ m, Reaches (.opening c, lines) m ∧ step m = .error crash := by
  have ends := (stops_of_attached attached lines).ends
  constructor
  · intro broken
    rw [broken] at ends
    exact exists_step_of_steps ends
  · rintro ⟨m, path, broken⟩
    obtain ⟨count, reached⟩ := exists_steps path
    have both := steps_add (4 * lines.length + 4) count (.opening c, lines)
    rw [Nat.add_comm, steps_add, reached, ends] at both
    have off : steps (4 * lines.length + 4) m = .error crash := steps_of_error broken _
    cases played : c.run lines with
    | error other =>
      rw [played] at both
      obtain rfl := Except.error.inj (both.symm.trans off)
      rfl
    | ok result =>
      rw [played] at both
      exact absurd ((steps_done count result).symm.trans (both.symm.trans off)) nofun

/-- The lines that are still to be typed are the last ones. -/
theorem suffix_of_stepped (next : Stepped m n) : n.2 <:+ m.2 := by
  cases next with
  | opened => exact List.suffix_refl _
  | crossed => exact List.suffix_refl _
  | halted => exact List.suffix_refl _
  | stayed => exact List.suffix_refl _
  | closed => exact List.suffix_refl _
  | reacted => exact List.suffix_cons ..
  | left => exact List.suffix_cons ..
  | renewed => exact List.suffix_cons ..
  | ended => exact List.suffix_cons ..

theorem suffix_of_reaches (path : Reaches m n) : n.2 <:+ m.2 := by
  induction path with
  | refl => exact List.suffix_refl _
  | tail _ last ih => exact (suffix_of_stepped (stepped_of_step last)).trans ih

end Phase
end Gamebook

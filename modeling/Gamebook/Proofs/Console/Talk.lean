/-
# What a console does to its session

A console shows a session and carries out commands on it.  This file settles that the two are kept
apart.

* **Showing.**  Whatever is shown, the game, the session and the mark that the screen is out of date
  stay as they are (`Shows`).  There is one lemma for each thing that is shown.
* **Performing.**  A console listens to its session (`Attached`), and so a command that changes the
  session marks the screen as out of date: after `perform` either the console is what it was, or
  it is marked (`Attached.performed`).
* **Typed lines.**  `Reaction` lists what a line can come to, and whatever it is, the console only
  shows things and performs commands (`acts_react`).  So as long as the screen is not out of date,
  the session is the one that was shown last (`Acts.unnoticed`).
-/
import Gamebook.Console.Play
import Gamebook.Proofs.Fault
import Gamebook.Proofs.Session.Moves

namespace Gamebook.Console

variable {c d e : Console}

/-! ## 1. Showing -/

/-- **Something was shown, and nothing else was done**: the game, the session, the reports and the
mark of the screen are the same. -/
structure Shows (c d : Console) : Prop where
  game : d.game = c.game
  session : d.session = c.session
  reports : d.reports = c.reports
  outdated : d.outdated = c.outdated

theorem Shows.refl (c : Console) : Shows c c := ⟨rfl, rfl, rfl, rfl⟩

theorem Shows.trans (h : Shows c d) (h' : Shows d e) : Shows c e :=
  ⟨h'.game.trans h.game, h'.session.trans h.session, h'.reports.trans h.reports,
    h'.outdated.trans h.outdated⟩

theorem shows_tell (c : Console) (message : Message) : Shows c (c.tell message) :=
  ⟨rfl, rfl, rfl, rfl⟩

theorem shows_note (c : Console) (prompt : String) (answer : Option String) :
    Shows c (c.note prompt answer) := ⟨rfl, rfl, rfl, rfl⟩

theorem shows_headed (c : Console) (headed : Option Text) : Shows c { c with headed } :=
  ⟨rfl, rfl, rfl, rfl⟩

theorem shows_files (c : Console) (files : FileTree Bytes) : Shows c { c with files } :=
  ⟨rfl, rfl, rfl, rfl⟩

theorem shows_sayAll (c : Console) (lines : List Text) : Shows c (c.sayAll lines) := by
  induction lines generalizing c with
  | nil => exact .refl c
  | cons line rest ih => exact (shows_tell c (.line line)).trans (ih (c.say line))

/-- Lines as they stand in a transcript. -/
def told (lines : List Text) : List Exchange := lines.map fun text => .told (.line text)

theorem toList_sayAll (c : Console) (lines : List Text) :
    (c.sayAll lines).transcript.toList = c.transcript.toList ++ told lines := by
  induction lines generalizing c with
  | nil => simp [sayAll, told]
  | cons line rest ih =>
    change ((c.say line).sayAll rest).transcript.toList = _
    rw [ih, say, tell, Array.toList_push, List.append_assoc]
    rfl

theorem shows_showHeader (h : c.showHeader = .ok d) : Shows c d := by
  unfold showHeader at h
  split at h
  · cases h; exact .refl c
  · split at h
    · cases h; exact .refl c
    · simp only at h
      split at h
      · cases h
      · split at h
        · cases h
        · cases h
          exact (shows_headed c _).trans (shows_sayAll _ _)

theorem shows_showLine (c : Console) : Shows c c.showLine := by
  unfold showLine
  split
  · split
    · exact .refl c
    · exact shows_tell c _
  · exact .refl c

theorem shows_showVariables (h : c.showVariables = .ok d) : Shows c d := by
  unfold showVariables at h
  simp only at h
  split at h
  · contradiction
  · cases h; exact shows_tell c _

theorem shows_showEnding (h : c.showEnding = .ok d) : Shows c d :=
  ((shows_sayAll c _).trans (shows_sayAll _ _)).trans (shows_showVariables h)

theorem shows_leave (c : Console) : Shows c c.leave.1 := shows_sayAll c _

theorem shows_close (c : Console) (pause : Pause) : Shows c (c.close pause) := by
  cases pause with
  | command choices => exact (shows_note c _ _).trans (shows_leave _)
  | again => exact (shows_note c _ _).trans (shows_tell _ _)
  | done => exact .refl c

/-- Saving writes a file and leaves the session alone. -/
theorem shows_store (h : c.store = .ok d) : Shows c d := by
  unfold store at h
  simp only at h
  split at h
  · contradiction
  · cases h; exact shows_tell c _
  · split at h
    · contradiction
    · cases h
      exact (shows_files c _).trans (shows_tell _ _)

/-! ## 2. Performing -/

/-- **A console that listens to its session**, as nobody else does. -/
def Attached (c : Console) : Prop := c.session.listeners = Listeners.add {} listener

theorem attached_fresh (game : Game) (manifest : Manifest) (savePath : Path)
    (files : FileTree Bytes) (source : Source) (reports : Option (List Report)) :
    (fresh game manifest savePath files source reports).Attached := rfl

theorem Attached.of_shows (h : c.Attached) (shows : Shows c d) : d.Attached := by
  unfold Attached
  rw [shows.session]
  exact h

/-- What a command that was carried out leaves of a console. -/
structure Performed (command : Command) (c d : Console) : Prop where
  game : d.game = c.game
  session : d.session = (command.run c.game c.session).session
  transcript : d.transcript = c.transcript
  attached : d.Attached
  /-- **No change goes unnoticed.** -/
  noticed : d = c ∨ d.outdated = true

theorem Attached.performed (h : c.Attached) {command : Command}
    (done : c.perform command = .ok d) : Performed command c d := by
  unfold perform after at done
  cases Session.upshot_run c.game command c.session with
  | nothing eq =>
    rw [eq] at done
    have same : d = c := by
      cases done
      cases c with
      | mk game manifest savePath files session reports outdated headed transcript =>
        cases reports <;> simp [Session.idle]
    subst same
    exact ⟨rfl, by rw [eq]; rfl, rfl, h, .inl rfl⟩
  | failed t fault listeners eq =>
    rw [eq] at done
    contradiction
  | changed t reports listeners eq =>
    have registry : t.listeners = Listeners.add {} listener := listeners.trans h
    rw [eq, Session.notify_eq] at done
    cases done
    refine ⟨rfl, by rw [eq]; rfl, rfl, ?_, .inr ?_⟩
    · simp only [Attached, Session.told, registry]
      rfl
    · simp only [registry]
      rw [Bool.or_eq_true]
      exact .inr rfl

/-- A command without a fault is carried out. -/
theorem perform_of_no_fault (c : Console) (command : Command)
    (sound : (command.run c.game c.session).fault = none) : ∃ d, c.perform command = .ok d := by
  unfold perform after
  rw [sound]
  exact ⟨_, rfl⟩

/-! ## 3. Typed lines -/

/-- **All that a command line can come to.**  A blank line reads on, unless there are choices to be
made; then a line of digits picks one.  Everything else is a word. -/
inductive Reaction (c : Console) (choices : List Choice) (line : String)
    (r : Except Crash (Option Console)) : Prop
  | read (blank : understood line = []) (free : choices = []) (eq : r = c.readOn.map some)
  | reminded (blank : understood line = []) (offered : choices ≠ [])
      (eq : r = .ok (some (c.say "Pick a number.")))
  | picked (said : understood line ≠ []) (digits : (understood line).all Text.isDigitLike = true)
      (offered : choices ≠ [])
      (eq : r = (c.choose choices (understood line)).map some)
  | quit (said : understood line ≠ [])
      (word : (understood line).all Text.isDigitLike = true → choices = []) (eq : r = .ok none)
  | obeyed (said : understood line ≠ [])
      (word : (understood line).all Text.isDigitLike = true → choices = [])
      (eq : r = (c.obey (String.ofList (understood line))).map some)

theorem reaction_react (c : Console) (choices : List Choice) (line : String) :
    Reaction c choices line (c.react choices line) := by
  unfold react
  simp only
  split
  · rename_i blank
    have blank : understood line = [] := by simpa using blank
    split
    · rename_i free
      refine .read blank (by simpa using free) ?_
      cases c.readOn <;> rfl
    · rename_i offered
      exact .reminded blank (by simpa using offered) rfl
  · rename_i said
    have said : understood line ≠ [] := by simpa using said
    split
    · rename_i digits
      obtain ⟨digits, offered⟩ := Bool.and_eq_true_iff.mp digits
      refine .picked said digits (by simpa using offered) ?_
      cases c.choose choices (understood line) <;> rfl
    · rename_i word
      have word : (understood line).all Text.isDigitLike = true → choices = [] := by
        simpa using word
      split
      · exact .quit said word rfl
      · refine .obeyed said word ?_
        cases c.obey (String.ofList (understood line)) <;> rfl

/-- A console to go on with is what was done came to. -/
theorem eq_ok_of_map_some {x : Except Crash Console} (h : x.map some = .ok (some d)) :
    x = .ok d := by
  cases x with
  | error crash => contradiction
  | ok e =>
    cases h
    rfl

/-! ## 4. Showing and performing -/

/-- **Things were shown and commands were carried out**, one after another. -/
inductive Acts : Console → Console → Prop
  | shows {c d : Console} (shows : Shows c d) : Acts c d
  | performs {c d : Console} (command : Command) (done : c.perform command = .ok d) : Acts c d
  | trans {c d e : Console} (first : Acts c d) (last : Acts d e) : Acts c e

/-- **While no change is noticed, the session stays as it is.** -/
theorem Acts.unnoticed (h : Acts c d) (attached : c.Attached) :
    d.Attached ∧ (d.outdated = false → c.outdated = false ∧ d.session = c.session) := by
  induction h with
  | @shows c d shows =>
    refine ⟨attached.of_shows shows, fun shown => ⟨?_, shows.session⟩⟩
    rw [← shows.outdated]
    exact shown
  | @performs c d command done =>
    have p := attached.performed done
    refine ⟨p.attached, fun shown => ?_⟩
    rcases p.noticed with same | noticed
    · subst same
      exact ⟨shown, rfl⟩
    · rw [noticed] at shown
      contradiction
  | @trans c d e _ _ first last =>
    obtain ⟨attached, before⟩ := first attached
    obtain ⟨attached, after⟩ := last attached
    refine ⟨attached, fun shown => ?_⟩
    obtain ⟨shown, same⟩ := after shown
    obtain ⟨shown, same'⟩ := before shown
    exact ⟨shown, same.trans same'⟩

theorem cross_of_none (free : c.session.staging.destination = none) : c.cross = .ok c := by
  unfold cross
  rw [free]

/-- Crossing shows the text on the way, if there is one, and completes the transition. -/
theorem cross_of_some {scene : Text} (staged : c.session.staging.destination = some scene) :
    ∃ before, Shows c before ∧ c.cross = before.perform .complete := by
  unfold cross
  rw [staged]
  refine ⟨_, ?_, rfl⟩
  split
  · exact .refl c
  · exact shows_sayAll c _

theorem acts_cross (h : c.cross = .ok d) : Acts c d := by
  cases destination : c.session.staging.destination with
  | none =>
    cases (cross_of_none destination).symm.trans h
    exact .shows (.refl c)
  | some scene =>
    obtain ⟨before, shows, opened⟩ := cross_of_some destination
    exact .trans (.shows shows) (.performs .complete (opened.symm.trans h))

theorem acts_readOn (h : c.readOn = .ok d) : Acts c d := by
  obtain ⟨next, advanced, rest⟩ := bind_ok_iff.mp h
  refine .trans (.performs .advance advanced) ?_
  split at rest
  · exact acts_cross rest
  · cases rest
    exact .shows (.refl d)

theorem acts_choose {choices : List Choice} {digits : List Char}
    (h : c.choose choices digits = .ok d) : Acts c d := by
  unfold choose at h
  split at h
  · contradiction
  · split at h
    · rename_i choice _
      exact .trans (.shows (shows_sayAll c _)) (.performs (.select choice) h)
    · cases h
      exact .shows (shows_tell c _)

theorem acts_restore (h : c.restore = .ok d) : Acts c d := by
  unfold restore at h
  split at h
  · cases h; exact .shows (shows_tell c _)
  · cases h; exact .shows (shows_tell c _)
  · contradiction
  · cases h; exact .shows (shows_tell c _)
  · split at h
    · split at h
      · contradiction
      · cases h; exact .shows (shows_tell c _)
    · rename_i save _
      obtain ⟨e, loaded, rest⟩ := bind_ok_iff.mp h
      cases rest
      exact .trans (.shows (shows_headed c none))
        (.trans (.performs (.load save) loaded) (.shows (shows_tell e _)))

theorem acts_obey {word : String} (h : c.obey word = .ok d) : Acts c d := by
  unfold obey at h
  split at h
  · cases h; exact .shows (shows_sayAll c _)
  · split at h
    · cases h; exact .shows (shows_sayAll c _)
    · split at h
      · exact .shows (shows_showVariables h)
      · split at h
        · exact .shows (shows_store h)
        · split at h
          · exact acts_restore h
          · cases h; exact .shows (shows_tell c _)

theorem acts_react {choices : List Choice} {line : String}
    (h : c.react choices line = .ok (some d)) : Acts c d := by
  cases reaction_react c choices line with
  | read blank free eq => exact acts_readOn (eq_ok_of_map_some (eq.symm.trans h))
  | reminded blank offered eq =>
    cases eq.symm.trans h
    exact .shows (shows_tell c _)
  | picked said digits offered eq => exact acts_choose (eq_ok_of_map_some (eq.symm.trans h))
  | quit said word eq => cases eq.symm.trans h
  | obeyed said word eq => exact acts_obey (eq_ok_of_map_some (eq.symm.trans h))

end Gamebook.Console

/-
# Saving and loading on a console

What a player saves is what a later load takes up, and every other file is refused or taken up as
far as it goes.

* **Loading.**  `Taken` lists all that restoring can come to: a file that is not there or holds no
  save data is refused, and nothing changes but the transcript; save data that is accepted is taken
  up, with the index clamped into the scene; and the run is broken off before anything is done, if
  the path is too long to be looked up or what is in the file is nested too deeply.
* **Saving.**  A save that is confirmed stands in the save file as a whole (`store_of_saved`).
* **In between.**  Whatever is done, the variables of a console are plain, and its game and the path
  of its save file stay the same; so the save is accepted, as long as nobody writes the file
  (`storage_of_fresh`).
-/
import Gamebook.Proofs.Console.Deeds
import Gamebook.Proofs.Files.Tree
import Gamebook.Proofs.Session.Acceptance
import Gamebook.Proofs.Session.SaveFiles
import Gamebook.Proofs.Session.Stores
import Mathlib.Data.String.Basic

namespace Gamebook

namespace Console

variable {c d : Console} {content : Bytes} {save : Save} {choices : List Choice} {line : String}

/-! ## 1. Loading -/

/-- The console that took a save up. -/
def resumed (c : Console) (save : Save) : Console :=
  ({ c with headed := none }.performed (.load save)).say "Loaded."

theorem restore_of_read (found : c.files.find c.savePath = .file content)
    (read : Save.ofBytes content = .ok save) : c.restore = .ok (c.resumed save) := by
  unfold restore
  simp only [found, read]
  rfl

/-- **All that restoring can come to.** -/
inductive Taken (c : Console) : Except Crash Console → Prop
  /-- There is no file: that is said, and nothing else is done. -/
  | absent (found : c.files.find c.savePath = .missing ∨ c.files.find c.savePath = .notFolder) :
      Taken c (.ok (c.say "No save data."))
  /-- There is a folder, or a file without save data: that is said, and nothing else is done. -/
  | refused {message : Message} {reason : Text}
      (wording : message.wording = Text.ofString "Load failed: " ++ reason)
      (found : c.files.find c.savePath = .folder ∨
        ∃ content reason, c.files.find c.savePath = .file content ∧
          Save.ofBytes content = .error reason) : Taken c (.ok (c.tell message))
  /-- Save data that is accepted is taken up; the next header will be shown. -/
  | accepted {content : Bytes} {save : Save} {d : Console}
      (found : c.files.find c.savePath = .file content) (read : Save.ofBytes content = .ok save)
      (session : d.session = c.session.resumed c.game save) (headed : d.headed = none)
      (transcript : d.transcript = c.transcript.push (.told (.line "Loaded."))) :
      Taken c (.ok d)
  /-- A path that is too long breaks the run off, before anything is done. -/
  | overlong (found : c.files.find c.savePath = .tooLong) : Taken c (.error ⟨c, .pathTooLong⟩)
  /-- So does what is nested too deeply. -/
  | deep {content : Bytes} {text : List Char} {failure : Json.Failure}
      (found : c.files.find c.savePath = .file content)
      (read : Save.ofBytes content = .error (.notJson text failure))
      (cause : failure.cause = .tooDeep) : Taken c (.error ⟨c, .tooDeep⟩)

theorem session_resumed (attached : c.Attached) (save : Save) :
    (c.resumed save).session = c.session.resumed c.game save := by
  have registry : (c.session.resumed c.game save).listeners = Listeners.add {} listener := attached
  change (c.session.resumed c.game save).told = _
  unfold Session.told
  rw [registry]
  cases resumed : c.session.resumed c.game save
  rw [resumed] at registry
  cases registry
  rfl

theorem taken_restore (attached : c.Attached) : Taken c c.restore := by
  cases found : c.files.find c.savePath with
  | missing =>
    unfold restore
    simp only [found]
    exact .absent (.inl found)
  | notFolder =>
    unfold restore
    simp only [found]
    exact .absent (.inr found)
  | tooLong =>
    unfold restore
    simp only [found]
    exact .overlong found
  | folder =>
    unfold restore
    simp only [found]
    exact .refused rfl (.inl found)
  | file content =>
    cases read : Save.ofBytes content with
    | ok save =>
      rw [restore_of_read found read]
      exact .accepted found read (session_resumed attached save) rfl rfl
    | error reason =>
      unfold restore
      simp only [found, read]
      cases reason with
      | notUtf8 failure => exact .refused rfl (.inr ⟨content, _, found, read⟩)
      | flawed flaw =>
        rw [Save.fault?_of_flawed read]
        exact .refused rfl (.inr ⟨content, _, found, read⟩)
      | notJson text failure =>
        simp only [Save.Unreadable.fault?]
        by_cases cause : failure.cause = .tooDeep
        · rw [if_pos cause]
          exact .deep found read cause
        · rw [if_neg cause]
          exact .refused rfl (.inr ⟨content, _, found, read⟩)

/-! ## 2. Words -/

/-- A word that is no number and does not quit is obeyed, also where choices are offered. -/
theorem react_of_word (c : Console) (choices : List Choice) {line word : String}
    (said : understood line = word.toList) (letters : word.toList.all Text.isDigitLike = false)
    (stays : word ≠ "quit" ∧ word ≠ "q") : c.react choices line = (c.obey word).map some := by
  have nonempty : word.toList.isEmpty = false := by
    cases cs : word.toList with
    | nil => rw [cs] at letters; contradiction
    | cons _ _ => rfl
  unfold react
  simp only [said, letters, nonempty, String.ofList_toList, Bool.false_and, Bool.false_eq_true,
    if_false, stays.1, stays.2, or_self]
  cases c.obey word <;> rfl

theorem react_of_load (c : Console) (choices : List Choice) {line : String}
    (said : understood line = "load".toList) : c.react choices line = c.restore.map some :=
  react_of_word c choices said (by decide +kernel) (by decide)

theorem react_of_save (c : Console) (choices : List Choice) {line : String}
    (said : understood line = "save".toList) : c.react choices line = c.store.map some :=
  react_of_word c choices said (by decide +kernel) (by decide)

/-! ## 3. Saving -/

/-- The last thing that was shown is a text. -/
def LastTold (c : Console) (text : Text) : Prop :=
  c.transcript.toList.getLast? = some (.told (.line text))

theorem lastTold_say (c : Console) (text : Text) : (c.say text).LastTold text := by
  simp [LastTold, say, tell]

/-- **A save that is confirmed stands in the save file as a whole.** -/
theorem store_of_saved (done : c.store = .ok d) (confirmed : d.LastTold "Saved.") :
    c.session.save.written.2 = none ∧ ∃ files,
      c.files.write c.savePath (Utf8.encode c.session.save.written.1.toList) = .ok files ∧
        d = { c with files }.say "Saved." := by
  unfold store at done
  simp only at done
  split at done
  · contradiction
  · rename_i error _ _
    obtain rfl := Except.ok.inj done
    simp [LastTold, tell] at confirmed
  · rename_i files written
    split at done
    · contradiction
    · rename_i whole
      exact ⟨whole, files, written, (Except.ok.inj done).symm⟩

/-! ## 4. What stays -/

/-- Whatever a console does, its variables are plain. -/
theorem Deeds.plain {commands : List Command} (deeds : Deeds c commands d)
    (h : c.session.store.Plain) : d.session.store.Plain := by
  induction deeds with
  | nothing c => exact h
  | deed first _ ih =>
    refine ih ?_
    rw [first.deeds.same.1]
    exact h
  | @command c e command commands due _ ih =>
    refine ih (Session.plain_run h fun save eq => ?_)
    subst eq
    cases due with
    | load found read => exact Save.plain_of_ofBytes read

/-- Where a console asks for a command, the lines of its session are those of the scene. -/
theorem Asking.cached (h : Asking c choices) :
    c.session.lines = c.game.story.linesOf c.session.scene := by
  rcases h.standing.cached with cached | ⟨-, none⟩
  · exact cached
  · have unread := h.unread
    simp [Session.atEnd, Session.line?, none] at unread

end Console

namespace Session

variable {game : Game} {a : Session}

/-- What is put back when a save is taken up. -/
theorem Standing.resumed_of_cached (h : Standing game a)
    (cached : a.lines = game.story.linesOf a.scene) (b : Session) :
    b.resumed game a.save =
      { b with
        scene := a.scene, lines := a.lines, index := a.index, store := a.store, staging := .clear
        endingReported := a.inEnding game } := by
  simp only [resumed, save, ← cached, h.clampIndex_eq]
  rfl

end Session

namespace Phase

open Console

variable {m n start : Phase × List String} {c d e : Console} {content : Bytes} {save : Save}
  {line : String}

theorem step_of_load (found : c.files.find c.savePath = .file content)
    (read : Save.ofBytes content = .ok save) (choices : List Choice)
    (said : understood line = "load".toList) (rest : List String) :
    step (.paused c (.command choices), line :: rest) =
      .ok (.round ((c.note commandPrompt (some line)).resumed save), rest) := by
  have restored : (c.note commandPrompt (some line)).restore =
      .ok ((c.note commandPrompt (some line)).resumed save) := restore_of_read found read
  simp only [step, react_of_load _ choices said, restored]
  rfl

theorem step_of_overlong (found : c.files.find c.savePath = .tooLong) (choices : List Choice)
    (said : understood line = "load".toList) (rest : List String) :
    step (.paused c (.command choices), line :: rest) =
      .error ⟨c.note commandPrompt (some line), .pathTooLong⟩ := by
  have broken : (c.note commandPrompt (some line)).restore =
      .error ⟨c.note commandPrompt (some line), .pathTooLong⟩ := by
    have found : (c.note commandPrompt (some line)).files.find
        (c.note commandPrompt (some line)).savePath = .tooLong := found
    unfold restore
    simp only [found]
  simp only [step, react_of_load _ choices said, broken]
  rfl

/-- A step in which no file is written. -/
def Unwritten (m n : Phase × List String) : Prop :=
  step m = .ok n ∧ n.1.console.files = m.1.console.files

/-- What stays along the loops: the game, the path of the save file, and that variables are
plain. -/
structure Stays (m n : Phase × List String) : Prop where
  game : n.1.console.game = m.1.console.game
  savePath : n.1.console.savePath = m.1.console.savePath
  plain : m.1.console.session.store.Plain → n.1.console.session.store.Plain

theorem stays_of_reaches (sound : m.1.Sound) (path : Reaches m n) : Stays m n := by
  induction path with
  | refl => exact ⟨rfl, rfl, id⟩
  | tail before last ih =>
    obtain ⟨_, _, -, -, deeds⟩ := deeds_of_step (sound.reaches before) last
    exact ⟨deeds.fixed.1.trans ih.game, deeds.fixed.2.trans ih.savePath,
      fun plain => deeds.plain (ih.plain plain)⟩

theorem reaches_of_unwritten (path : Relation.ReflTransGen Unwritten m n) :
    Reaches m n ∧ n.1.console.files = m.1.console.files := by
  induction path with
  | refl => exact ⟨.refl, rfl⟩
  | tail _ last ih => exact ⟨ih.1.tail last.1, last.2.trans ih.2⟩

/-! ## 5. The laws of the save file -/

/-- **What a load takes up of a console that was saved**: `c` was saved, `e` loads and is `f`
then. -/
structure Restored (c e f : Console) : Prop where
  confirmed : f.LastTold "Loaded."
  scene : f.session.scene = c.session.scene
  index : f.session.index = c.session.index
  store : f.session.store = c.session.store
  lines : f.session.lines = c.session.lines
  staging : f.session.staging = .clear
  history : f.session.history = e.session.history

/-- **The laws of the save file** along the loops. -/
structure Storage (start : Phase × List String) : Prop where
  /-- What was saved is loaded, as long as no file is written in between, also in a later
  session. -/
  keeps : ∀ {c d e : Console} {choices offers : List Choice} {line line' : String}
    {rest rest' : List String},
    Reaches start (.paused c (.command choices), line :: rest) →
    understood line = "save".toList →
    step (.paused c (.command choices), line :: rest) = .ok (.round d, rest) →
    d.LastTold "Saved." →
    Relation.ReflTransGen Unwritten (.round d, rest) (.paused e (.command offers), line' :: rest') →
    understood line' = "load".toList →
    ∃ f, step (.paused e (.command offers), line' :: rest') = .ok (.round f, rest') ∧
      Restored c e f
  /-- Whatever stands at the path of the save file, a load comes to one of the things listed. -/
  takes : ∀ {e : Console} {choices : List Choice} {line : String} {rest : List String},
    Reaches start (.paused e (.command choices), line :: rest) →
    understood line = "load".toList →
    ∃ taken, Taken (e.note commandPrompt (some line)) taken ∧
      step (.paused e (.command choices), line :: rest) =
        taken.map fun f => (.round f, rest)

theorem restored_of_saved {c e : Console} {choices : List Choice} (asking : Asking c choices)
    (attached : e.Attached) (game : e.game = c.game) (line : String) :
    Restored c e ((e.note commandPrompt (some line)).resumed c.session.save) := by
  have session : ((e.note commandPrompt (some line)).resumed c.session.save).session =
      e.session.resumed c.game c.session.save := by
    rw [session_resumed (attached.of_shows (shows_note e _ _)), ← game]
    rfl
  rw [asking.standing.resumed_of_cached asking.cached] at session
  have field {α : Type} (f : Session → α) := congrArg f session
  exact ⟨lastTold_say _ _, field Session.scene, field Session.index, field Session.store,
    field Session.lines, field Session.staging, field Session.history⟩

/-- **The laws of the save file hold in every run**, whatever the files are at its beginning. -/
theorem storage_of_fresh (game : Game) (manifest : Manifest) (savePath : Path)
    (files : FileTree Bytes) (source : Source) (reports : Option (List Report))
    (lines : List String) :
    Storage (.opening (fresh game manifest savePath files source reports), lines) := by
  have sound : (opening (fresh game manifest savePath files source reports)).Sound :=
    attached_fresh game manifest savePath files source reports
  have plain : (fresh game manifest savePath files source reports).session.store.Plain :=
    Store.plain_iff.mpr Table.all_empty
  refine ⟨?_, ?_⟩
  · intro c d e choices offers line line' rest rest' asked said saved confirmed path said'
    have resting : Resting c (.command choices) := sound.reaches asked
    have asking := (resting.prompting choices rfl).toAsking
    have plain : c.session.store.Plain := (stays_of_reaches sound asked).plain plain
    have stays := stays_of_reaches (sound.reaches (asked.tail saved)) (reaches_of_unwritten path).1
    have unwritten := (reaches_of_unwritten path).2
    have attached : e.Attached :=
      Resting.attached (sound.reaches ((asked.tail saved).trans (reaches_of_unwritten path).1))
    cases stepped_of_step saved with
    | reacted reacted =>
      rw [react_of_save _ choices said] at reacted
      obtain ⟨whole, files, written, rfl⟩ :=
        store_of_saved (eq_ok_of_map_some reacted) confirmed
      have found : e.files.find e.savePath =
          .file (Utf8.encode (c.note commandPrompt (some line)).session.save.written.1.toList) := by
        have savePath : e.savePath = c.savePath := stays.savePath
        have unwritten : e.files = files := unwritten
        rw [savePath, unwritten]
        exact FileTree.find_of_write written
      have read : Save.ofBytes _ = .ok c.session.save := Save.ofBytes_written plain whole
      exact ⟨_, step_of_load found read offers said' rest',
        restored_of_saved asking attached stays.game line'⟩
  · intro e choices line rest asked said
    have resting : Resting e (.command choices) := sound.reaches asked
    refine ⟨_, taken_restore (resting.attached.of_shows (shows_note e _ _)), ?_⟩
    simp only [step, react_of_load _ choices said]
    cases (e.note commandPrompt (some line)).restore <;> rfl

/-- A name of some letters. -/
def letters (count : Nat) : String := String.ofList (List.replicate count 'n')

/-- A console on the road whose save file has a name of 256 letters. -/
def farRoad : Console :=
  .fresh crossroads { id := "road" } { parts := [letters 256] } {} .constant none

theorem utf8ByteSize_letters (count : Nat) : (letters count).utf8ByteSize = count := by
  rw [letters, String.utf8ByteSize_ofList]
  induction count with
  | zero => rfl
  | succ count ih =>
    rw [List.replicate_succ, String.utf8Len_cons, ih]
    rfl

theorem find_letters {files : FileTree Bytes} (here : files.here = []) {count : Nat}
    (long : 255 < count) : files.find { parts := [letters count] } = .tooLong := by
  have same : (letters count).toList = List.replicate count 'n' := String.toList_ofList
  have parts : ({ parts := [letters count] } : Path).parts = [letters count] := rfl
  refine FileTree.find_of_long_name parts ?_ (fun dots => ?_) ?_ ?_
  · simp [Path.hasNull, same]
  · rw [dots] at same
    have two : 2 = count := by simpa using congrArg List.length same
    omega
  · rw [utf8ByteSize_letters]
    exact long
  · have relative : ({ parts := [letters count] } : Path).isAbsolute = false := rfl
    rw [relative, here]
    rfl

/-- **A load can break a run off**: on the far road there is no save file, and yet that is not
what is said. -/
theorem load_breaks_off :
    ∃ crash, farRoad.run ["load"] = .error crash ∧ crash.fault = .pathTooLong ∧
      ¬ crash.console.LastTold "No save data." := by
  have sound : (opening farRoad).Sound := attached_fresh crossroads _ _ _ _ _
  have whole : steps (2 + 6) (.opening farRoad, ["load"]) = (farRoad.run ["load"]).map done :=
    steps_eq_finish (m := (.opening farRoad, ["load"])) _ sound (Nat.le_refl _)
  have computed : (asked? (steps 2 (.opening farRoad, ["load"]))).any (fun place =>
      decide (understood place.2.2.1 = "load".toList ∧ place.1.files.here = [])) = true := by
    decide +kernel
  obtain ⟨⟨c, choices, line, rest⟩, asked, computed⟩ := (Option.any_eq_true _ _).mp computed
  obtain ⟨said, here⟩ := of_decide_eq_true computed
  have before := eq_of_asked? asked
  have savePath : c.savePath = { parts := [letters 256] } :=
    (stays_of_reaches sound (reaches_steps before)).savePath
  have found : c.files.find c.savePath = .tooLong := by
    rw [savePath]
    exact find_letters here (by decide)
  have broken := step_of_overlong found choices said rest
  rw [steps_add, before] at whole
  change steps 6 _ = _ at whole
  rw [steps_of_error broken] at whole
  cases played : farRoad.run ["load"] with
  | ok result =>
    rw [played] at whole
    cases whole
  | error crash =>
    rw [played] at whole
    cases whole
    exact ⟨_, rfl, rfl, by simp [LastTold, note]⟩

end Phase
end Gamebook

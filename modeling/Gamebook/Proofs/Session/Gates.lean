/-
# Gates are not passed

A gate stops a reader until a choice is made, and a choice leads elsewhere or back to the gate.
This file settles that there is no way around it: `gates_hold` says that nobody ever stands behind
a gate of the scene, whatever was chosen and wherever one went, and that reading on from the start
of a scene comes line by line to the first gate and stays there.

The argument has two halves.

* **Every reading.**  `Ungated` says that no line before the index is a gate.  Entering a scene
  sets the index to zero, and only reading on moves it, by one, with nothing staged and away from
  a gate: so the line that is left behind is none (`Ungated.turned`).  A save brings back what it
  was made of, because its index is its own clamp.
* **One scene.**  `reach` is the place where reading on comes to a stop.  A step of reading goes to
  `min (index + 1) reach` (`index_advance`), and so `k` steps from the start go to `min k reach`.
-/
import Gamebook.Proofs.Session.Saves

namespace Gamebook

/-! ## 1. Where reading on stops -/

/-- The place where reading on comes to a stop: the first gate, or the last line if there is no
gate. -/
def reach (lines : List Line) : Nat := (lines.findIdx? Line.isGate).getD (lines.length - 1)

theorem reach_le_of_gate {lines : List Line} {i : Nat} {line : Line} (at_i : lines[i]? = some line)
    (gate : line.isGate = true) : reach lines ≤ i := by
  obtain ⟨inside, eq⟩ := List.getElem?_eq_some_iff.mp at_i
  cases first : lines.findIdx? Line.isGate with
  | none =>
    have spoken := List.findIdx?_eq_none_iff.mp first line (List.mem_of_getElem? at_i)
    simp [gate] at spoken
  | some g =>
    obtain ⟨_, _, before⟩ := List.findIdx?_eq_some_iff_getElem.mp first
    simp only [reach, first, Option.getD_some]
    refine Nat.le_of_not_lt fun passed => ?_
    exact before i passed (by rw [eq, gate])

theorem reach_le_last (lines : List Line) : reach lines ≤ lines.length - 1 := by
  cases first : lines.findIdx? Line.isGate with
  | none => simp [reach, first]
  | some g =>
    obtain ⟨inside, _, _⟩ := List.findIdx?_eq_some_iff_getElem.mp first
    simp only [reach, first, Option.getD_some]
    omega

/-- A spoken line that is not the last one is not where reading stops. -/
theorem reach_ne {lines : List Line} {i : Nat} (more : i + 1 < lines.length)
    (spoken : ∀ line, lines[i]? = some line → line.isGate = false) : reach lines ≠ i := by
  intro stop
  cases first : lines.findIdx? Line.isGate with
  | none =>
    simp only [reach, first, Option.getD_none] at stop
    omega
  | some g =>
    obtain ⟨inside, gate, _⟩ := List.findIdx?_eq_some_iff_getElem.mp first
    simp only [reach, first, Option.getD_some] at stop
    subst stop
    simp [spoken _ (List.getElem?_eq_getElem inside)] at gate

namespace Session

variable {story : Story} {game : Game} {s t : Session}

/-! ## 2. No gate lies behind a reader -/

/-- **No line before the current one is a gate.** -/
def Ungated (s : Session) : Prop := ∀ line ∈ s.lines.take s.index, line.isGate = false

/-- The index does not exceed the place of the first gate. -/
theorem Ungated.index_le (h : Ungated s) {g : Nat}
    (first : s.lines.findIdx? Line.isGate = some g) : s.index ≤ g := by
  obtain ⟨inside, gate, _⟩ := List.findIdx?_eq_some_iff_getElem.mp first
  refine Nat.le_of_not_lt fun passed => ?_
  have mem : s.lines[g] ∈ s.lines.take s.index :=
    List.mem_take_iff_getElem.mpr ⟨g, by omega, rfl⟩
  simp [h _ mem] at gate

theorem ungated_of_start (begins : s.index = 0) : Ungated s := by
  simp [Ungated, begins]

/-- Lines and index are all that counts. -/
theorem Ungated.of_place (h : Ungated s) (lines : t.lines = s.lines) (index : t.index = s.index) :
    Ungated t := by
  unfold Ungated
  rwa [lines, index]

/-- Away from a gate and with nothing staged, the current line is spoken. -/
theorem spoken_of_away (away : s.atGate = false) (free : s.staging.isStaged = false) {line : Line}
    (current : s.line? = some line) : line.isGate = false := by
  refine Bool.eq_false_iff.mpr fun gate => ?_
  rw [(atGate_iff s).mpr ⟨free, line, current, gate⟩] at away
  contradiction

/-- **Turning to the next line leaves no gate behind.** -/
theorem Ungated.turned (h : Ungated s) (away : s.atGate = false)
    (free : s.staging.isStaged = false) : Ungated s.turned := by
  intro line mem
  have mem : line ∈ s.lines.take (s.index + 1) := mem
  rw [List.take_add_one, List.mem_append, Option.mem_toList] at mem
  rcases mem with before | current
  · exact h line before
  · exact spoken_of_away away free current

theorem Ungated.advance (h : Ungated s) : Ungated s.advance.session := by
  cases reading_advance s with
  | gated gate eq => rw [eq]; exact h
  | acknowledged away staged eq => rw [eq]; exact h.of_place rfl rfl
  | next away free more eq => rw [eq]; exact (h.turned away free).of_place rfl rfl
  | last away free done eq => rw [eq]; exact h

theorem Ungated.select (h : Ungated s) (choice : Choice) :
    Ungated (s.select game choice).session := by
  cases selection_select game choice s with
  | ignored away eq => rw [eq]; exact h
  | effectFailed gate fault broken eq => rw [eq]; exact h.of_place rfl rfl
  | endingFailed gate fault applied broken eq => rw [eq]; exact h.of_place rfl rfl
  | staged gate scene source applied resolved eq => rw [eq]; exact h.of_place rfl rfl

theorem goTo_index (game : Game) (scene : Text) (s : Session) :
    (s.goTo game scene).session.index = 0 := by
  rw [goTo_eq]
  rfl

theorem start_index (game : Game) (s : Session) : (s.start game).session.index = 0 := by
  cases beginning_start game s with
  | atScene first rest scenes eq => rw [eq]; exact goTo_index game first.id _
  | nowhere scenes eq => rw [eq]; rfl

theorem Ungated.complete (h : Ungated s) : Ungated (s.complete game).session := by
  cases completion_complete game s with
  | nothing free eq => rw [eq]; exact h
  | entered scene staged named eq => rw [eq]; exact ungated_of_start (goTo_index game scene s)

/-- A save of a session with no gate behind it leaves none behind whoever takes it up. -/
theorem Ungated.load (h : Ungated t) (stands : Standing game t) (s : Session) :
    Ungated (s.load game t.save).session := by
  rcases stands.cached with cached | ⟨-, nowhere⟩
  · refine h.of_place cached.symm ?_
    rw [load_eq, notify_eq]
    change clampIndex t.index (game.story.linesOf t.scene) = t.index
    rw [← cached, stands.clampIndex_eq]
  · refine ungated_of_start ?_
    rw [load_eq, notify_eq]
    change clampIndex t.index (game.story.linesOf t.scene) = 0
    rw [stands.unread nowhere]
    exact Nat.zero_min _

/-! ## 3. Readings of a story -/

/-- **The sessions of whoever reads a story**, with any choices, jumps and configurations; but the
saves that are taken up are those of such sessions. -/
inductive Roamed (story : Story) : Session → Prop
  | fresh (source : Source) : Roamed story (.fresh source)
  | start (config : Config) {s : Session} :
      Roamed story s → Roamed story (s.start ⟨story, config⟩).session
  | advance {s : Session} : Roamed story s → Roamed story s.advance.session
  | select (config : Config) {s : Session} (choice : Choice) :
      Roamed story s → Roamed story (s.select ⟨story, config⟩ choice).session
  | complete (config : Config) {s : Session} :
      Roamed story s → Roamed story (s.complete ⟨story, config⟩).session
  | goTo (config : Config) {s : Session} (scene : Text) :
      Roamed story s → Roamed story (s.goTo ⟨story, config⟩ scene).session
  | load (config : Config) {s t : Session} : Roamed story s → Roamed story t →
      Roamed story (s.load ⟨story, config⟩ t.save).session

/-- The configuration has no part in where a session stands. -/
theorem Standing.of_story {other : Game} (h : Standing game s) (same : game.story = other.story) :
    Standing other s :=
  ⟨same ▸ h.cached, h.inside, h.unread, h.unambiguous, h.gated⟩

theorem standing_of_roamed (h : Roamed story s) (config : Config) :
    Standing ⟨story, config⟩ s := by
  induction h with
  | fresh source => exact standing_fresh source
  | start config' _ _ => exact (standing_start ⟨story, config'⟩ _).of_story rfl
  | advance _ ih => exact ih.advance
  | select config' choice _ ih =>
    have ih : Standing ⟨story, config'⟩ _ := ih.of_story rfl
    exact (ih.select choice).of_story rfl
  | complete config' _ ih =>
    have ih : Standing ⟨story, config'⟩ _ := ih.of_story rfl
    exact ih.complete.of_story rfl
  | goTo config' scene _ _ => exact (standing_goTo ⟨story, config'⟩ scene _).of_story rfl
  | load config' _ _ _ _ => exact (standing_load ⟨story, config'⟩ _ _).of_story rfl

/-- **Nobody stands behind a gate**, by induction on the reading. -/
theorem ungated_of_roamed (h : Roamed story s) : Ungated s := by
  induction h with
  | fresh source => exact ungated_of_start rfl
  | start config _ _ => exact ungated_of_start (start_index _ _)
  | advance _ ih => exact ih.advance
  | select config choice _ ih => exact ih.select choice
  | complete config _ ih => exact ih.complete
  | goTo config scene _ _ => exact ungated_of_start (goTo_index _ scene _)
  | load config _ saved _ ih => exact ih.load (standing_of_roamed saved config) _

/-! ## 4. Reading a scene from its start -/

/-- A session with nothing staged that has not passed the place where reading stops. -/
structure OnWay (s : Session) : Prop where
  free : s.staging.isStaged = false
  within : s.index ≤ reach s.lines

/-- **One step of reading** goes one line further, but not beyond the place where reading stops. -/
theorem OnWay.index_advance (h : OnWay s) :
    s.advance.session.index = min (s.index + 1) (reach s.lines) := by
  have within := h.within
  cases reading_advance s with
  | gated gate eq =>
    obtain ⟨line, current, isGate⟩ := ((atGate_iff s).mp gate).2
    have := reach_le_of_gate current isGate
    rw [eq]
    change s.index = _
    omega
  | acknowledged away staged eq => simp [h.free] at staged
  | next away free more eq =>
    have := reach_ne more fun line current => spoken_of_away away free current
    rw [eq]
    change s.index + 1 = _
    omega
  | last away free done eq =>
    have := reach_le_last s.lines
    rw [eq]
    change s.index = _
    omega

theorem advance_lines (s : Session) : s.advance.session.lines = s.lines := by
  cases reading_advance s with
  | gated gate eq => rw [eq]; rfl
  | acknowledged away staged eq => rw [eq]; rfl
  | next away free more eq => rw [eq]; rfl
  | last away free done eq => rw [eq]; rfl

theorem OnWay.advance (h : OnWay s) : OnWay s.advance.session where
  free := by
    cases reading_advance s with
    | gated gate eq => rw [eq]; exact h.free
    | acknowledged away staged eq => simp [h.free] at staged
    | next away free more eq => rw [eq]; exact free
    | last away free done eq => rw [eq]; exact free
  within := by
    rw [h.index_advance, advance_lines]
    exact Nat.min_le_right ..

/-- A session in which one reads on some times. -/
def readOn (s : Session) : Nat → Session
  | 0 => s
  | k + 1 => (s.readOn k).advance.session

/-- **Reading on from the start of a scene** comes to the `k`-th line in `k` steps, until the place
where reading stops. -/
theorem index_readOn (free : s.staging.isStaged = false) (begins : s.index = 0) (k : Nat) :
    OnWay (s.readOn k) ∧ (s.readOn k).lines = s.lines ∧
      (s.readOn k).index = min k (reach s.lines) := by
  induction k with
  | zero => exact ⟨⟨free, by simp [readOn, begins]⟩, rfl, by simp [readOn, begins]⟩
  | succ k ih =>
    obtain ⟨onWay, lines, index⟩ := ih
    refine ⟨onWay.advance, (advance_lines _).trans lines, ?_⟩
    change (s.readOn k).advance.session.index = _
    rw [onWay.index_advance, lines, index]
    omega

/-- The commands that enter a scene: a start, a jump, and finishing a transition if one is there. -/
inductive Enters (s : Session) : Command → Prop
  | start : Enters s .start
  | goTo (scene : Text) : Enters s (.goTo scene)
  | complete (staged : s.staging.destination.isSome = true) : Enters s .complete

/-- A session at the start of its scene, with nothing staged; it may stand nowhere. -/
structure AtStart (story : Story) (s : Session) : Prop where
  lines : s.lines = story.linesOf s.scene ∨ (s.scene = [] ∧ s.lines = [])
  index : s.index = 0
  staging : s.staging = .clear

theorem atStart_goTo (game : Game) (scene : Text) (s : Session) :
    AtStart game.story (s.goTo game scene).session := by
  rw [goTo_eq]
  exact ⟨.inl rfl, rfl, rfl⟩

theorem atStart_start (game : Game) (s : Session) :
    AtStart game.story (s.start game).session := by
  cases beginning_start game s with
  | atScene first rest scenes eq => rw [eq]; exact atStart_goTo game first.id _
  | nowhere scenes eq => rw [eq]; exact ⟨.inr ⟨rfl, rfl⟩, rfl, rfl⟩

/-- **Whoever enters a scene is at its start.** -/
theorem Standing.atStart_run (h : Standing game s) {command : Command} (enters : Enters s command) :
    AtStart game.story (command.run game s).session := by
  cases enters with
  | start => exact atStart_start game s
  | goTo scene => exact atStart_goTo game scene s
  | complete staged =>
    obtain ⟨scene, staged⟩ := Option.isSome_iff_exists.mp staged
    change AtStart game.story (s.complete game).session
    rw [h.complete_of_staged staged]
    exact atStart_goTo game scene s

/-! ## 5. Gates hold -/

/-- **No gate can be passed.**  No line before the current one is a gate, so that the index does
not exceed the place of the first gate; and from the start of a scene that was entered, reading on
`k` times leads to the line in place `min k reach`, one line after the other in load order. -/
theorem gates_hold (story : Story) (s : Session) (roamed : Roamed story s) :
    (∀ line ∈ s.lines.take s.index, line.isGate = false) ∧
      (∀ g, s.lines.findIdx? Line.isGate = some g → s.index ≤ g) ∧
      ∀ (config : Config) (command : Command), Enters s command →
        let e := (command.run ⟨story, config⟩ s).session
        AtStart story e ∧
          ∀ k, (e.readOn k).lines = e.lines ∧ (e.readOn k).index = min k (reach e.lines) ∧
            (e.readOn k).line? = e.lines[min k (reach e.lines)]? := by
  have ungated := ungated_of_roamed roamed
  refine ⟨ungated, fun g first => ungated.index_le first, ?_⟩
  intro config command enters e
  have atStart : AtStart story e := (standing_of_roamed roamed config).atStart_run enters
  refine ⟨atStart, fun k => ?_⟩
  obtain ⟨-, lines, index⟩ := index_readOn (by rw [atStart.staging]; rfl) atStart.index k
  exact ⟨lines, index, by rw [line?, lines, index]⟩

/-- On the road: a choice at the fork leads back to the start of the road, where reading on comes to
the fork again and stays there. -/
theorem gates_hold_on_road :
    let fork := ((fresh .constant).start crossroads).session.advance.session
    let s := (fork.select crossroads waiting).session
    Roamed crossroads.story s ∧ s.index = 1 ∧ Enters s .complete ∧
      (((s.complete crossroads).session).readOn 5).index = 1 := by
  intro fork s
  have roamed : Roamed crossroads.story s :=
    (((Roamed.fresh .constant).start crossroads.config).advance).select crossroads.config waiting
  have enters : Enters s .complete := .complete (by decide +kernel)
  obtain ⟨-, -, reads⟩ := gates_hold crossroads.story s roamed
  refine ⟨roamed, by decide +kernel, enters, ?_⟩
  have index := ((reads crossroads.config .complete enters).2 5).2.1
  exact index.trans (by decide +kernel)

end Session
end Gamebook

/-
# What checking a story is good for

`Story.review` goes through a story once and plays nothing.  This file settles what a story in
which it finds no problem is spared when it is played: `onCourse_of_played` says that no reader
ever stands in a scene that does not exist, or is about to, meets a gate without choices or a
speaker without a name, or has a condition or an effect read that nothing understands.

The argument has two halves.

* **Static.**  No problem at all means that every single check succeeded, for every line and for
  every choice (`Checked`, `checked_of_problems`).
* **Dynamic.**  Reading a checked story, one can get to a scene in four ways: as the first one, as
  the destination of a choice, as the ending that the variables call for, and from a save.  Each of
  them leads to a scene of the story, and none of them loses a variable (`Guided`); so the static
  facts about all lines and all choices apply to those that are met.

A reader makes the choices that are offered and takes up the saves that were made while reading
(`Played`).  Choices that are not offered and saves from elsewhere are beyond any check.
-/
import Gamebook.Proofs.Ending
import Gamebook.Proofs.Session.Standing
import Gamebook.Proofs.Variable.Names
import Gamebook.Story.Problem

namespace Gamebook

/-! ## 1. The static half -/

namespace Story

/-- **What the checks of a story come to.** -/
structure Checked (story : Story) (config : Config) : Prop where
  scenes : story.scenes ≠ []
  /-- Every gate opens a group that has choices. -/
  gates : ∀ line ∈ story.lines, ∀ group, line.group? = some group →
    group ∈ story.choices.map Choice.group
  /-- Every line that is no gate is spoken by nobody or by a character. -/
  speakers : ∀ line ∈ story.lines, line.group? = none →
    line.speaker = [] ∨ line.speaker ∈ story.characters.map Character.id
  destinations : ∀ choice ∈ story.choices,
    choice.leadsToEnding = true ∨ choice.destination ∈ story.sceneIds
  conditions : ∀ choice ∈ story.choices, ∀ clause ∈ Condition.clauses choice.condition,
    ∃ c, Comparison.ofClause? clause = some c ∧ c.name ∈ story.variableDefs.map VariableDef.name
  effects : ∀ choice ∈ story.choices, ∀ clause ∈ Effect.clauses choice.effect,
    (Change.ofClause? clause).isSome = true
  endings : ∀ choice ∈ story.choices, choice.leadsToEnding = true →
    ∀ ending ∈ Ending.endings config, ending ∈ story.sceneIds

variable {story : Story} {config : Config}

theorem scenes_of_nameProblems (h : story.nameProblems = []) : story.scenes ≠ [] := by
  intro none
  simp [nameProblems, none] at h

theorem gate_of_lineProblems {line : Line} (h : story.lineProblems line = []) (group : Text)
    (gate : line.group? = some group) : group ∈ story.choices.map Choice.group := by
  have found := (List.append_eq_nil_iff.mp h).2
  rw [gate] at found
  refine Decidable.byContradiction fun missing => ?_
  simp [missing] at found

theorem speaker_of_lineProblems {line : Line} (h : story.lineProblems line = [])
    (spoken : line.group? = none) :
    line.speaker = [] ∨ line.speaker ∈ story.characters.map Character.id := by
  have found := (List.append_eq_nil_iff.mp h).2
  rw [spoken] at found
  refine Decidable.byContradiction fun missing => ?_
  rw [not_or] at missing
  simp [missing.1, missing.2] at found

theorem destination_of_choiceProblems {choice : Choice} (h : story.choiceProblems choice = []) :
    choice.leadsToEnding = true ∨ choice.destination ∈ story.sceneIds := by
  have found := (List.append_eq_nil_iff.mp (List.append_eq_nil_iff.mp h).1).1
  refine Decidable.byContradiction fun missing => ?_
  rw [not_or] at missing
  simp [missing.1, missing.2] at found

theorem condition_of_choiceProblems {choice : Choice} (h : story.choiceProblems choice = [])
    {clause : Text} (mem : clause ∈ Condition.clauses choice.condition) :
    ∃ c, Comparison.ofClause? clause = some c ∧
      c.name ∈ story.variableDefs.map VariableDef.name := by
  have found := (List.append_eq_nil_iff.mp (List.append_eq_nil_iff.mp h).1).2
  have found := List.flatMap_eq_nil_iff.mp found clause mem
  unfold conditionProblems at found
  split at found
  · contradiction
  · rename_i c read
    refine ⟨c, read, ?_⟩
    refine Decidable.byContradiction fun missing => ?_
    simp [missing] at found

theorem effect_of_choiceProblems {choice : Choice} (h : story.choiceProblems choice = [])
    {clause : Text} (mem : clause ∈ Effect.clauses choice.effect) :
    (Change.ofClause? clause).isSome = true := by
  have found := List.flatMap_eq_nil_iff.mp (List.append_eq_nil_iff.mp h).2 clause mem
  refine Decidable.byContradiction fun missing => ?_
  simp [effectProblems, missing] at found

theorem ending_of_endingProblems (h : story.endingProblems config = []) {choice : Choice}
    (mem : choice ∈ story.choices) (leads : choice.leadsToEnding = true) {ending : Text}
    (known : ending ∈ Ending.endings config) : ending ∈ story.sceneIds := by
  have used : story.choices.any Choice.leadsToEnding = true :=
    List.any_eq_true.mpr ⟨choice, mem, leads⟩
  rw [endingProblems, if_pos used, List.map_eq_nil_iff, List.filter_eq_nil_iff] at h
  simpa using h ending known

/-- **A story without problems is checked**: each problem that is not there is a fact. -/
theorem checked_of_problems (h : story.problems config = []) : Checked story config := by
  unfold problems at h
  simp only [List.append_eq_nil_iff, List.flatMap_eq_nil_iff] at h
  obtain ⟨⟨⟨names, lines⟩, choices⟩, endings⟩ := h
  exact {
    scenes := scenes_of_nameProblems names
    gates := fun line mem => gate_of_lineProblems (lines line mem)
    speakers := fun line mem => speaker_of_lineProblems (lines line mem)
    destinations := fun choice mem => destination_of_choiceProblems (choices choice mem)
    conditions := fun choice mem _ => condition_of_choiceProblems (choices choice mem)
    effects := fun choice mem _ => effect_of_choiceProblems (choices choice mem)
    endings := fun _ mem leads _ => ending_of_endingProblems endings mem leads }

theorem checked_of_review (h : story.review config = .ok []) : Checked story config := by
  unfold review at h
  split at h
  · contradiction
  · exact checked_of_problems (Except.ok.inj h)

/-- The name of a scene finds a scene. -/
theorem isSome_scene?_iff (story : Story) (id : Text) :
    (story.scene? id).isSome = true ↔ id ∈ story.sceneIds := by
  simp [scene?, sceneIds, List.find?_isSome]

theorem isSome_character?_iff (story : Story) (id : Text) :
    (story.character? id).isSome = true ↔ id ∈ story.characters.map Character.id := by
  simp [character?, List.find?_isSome]

end Story

/-! ## 2. Reading a story as it offers itself -/

/-- **The sessions of a reader who only does what is offered**: they begin with a start, choices are
taken from the open ones, and saves are those of such sessions. -/
inductive Played (game : Game) : Session → Prop
  /-- A start begins a reading, whatever the session was before. -/
  | start (s : Session) : Played game (s.start game).session
  | advance {s : Session} : Played game s → Played game s.advance.session
  | select {s : Session} {choice : Choice} :
      Played game s → choice ∈ s.openChoices game → Played game (s.select game choice).session
  | complete {s : Session} : Played game s → Played game (s.complete game).session
  /-- The save may be of this reading or of another one of the same story. -/
  | load {s t : Session} : Played game s → Played game t → Played game (s.load game t.save).session

/-- **What checking a story spares its readers.** -/
structure OnCourse (game : Game) (s : Session) : Prop where
  /-- The current scene exists. -/
  scene : (s.scene? game).isSome = true
  /-- And so does the one that is staged. -/
  destination : ∀ scene, s.staging.destination = some scene →
    (game.story.scene? scene).isSome = true
  gate : ∀ line group, s.line? = some line → line.group? = some group →
    game.story.choicesOf group ≠ []
  speaker : ∀ line, s.line? = some line → line.isGate = false →
    line.speaker = [] ∨ (game.story.character? line.speaker).isSome = true
  /-- At a gate the conditions of all choices of its group are read. -/
  conditions : ∀ line group, s.line? = some line → line.group? = some group →
    ∀ choice ∈ game.story.choicesOf group, ∀ clause ∈ Condition.clauses choice.condition,
      ∃ c, Comparison.ofClause? clause = some c ∧ s.store.contains c.name = true
  effects : ∀ choice ∈ s.openChoices game, ∀ clause ∈ Effect.clauses choice.effect,
    ∃ change, Change.ofClause? clause = some change

/-! ## 3. The dynamic half -/

/-- The invariant of reading a checked story. -/
structure Guided (game : Game) (s : Session) : Prop where
  scene : s.scene ∈ game.story.sceneIds
  lines : s.lines = game.story.linesOf s.scene
  destination : ∀ scene, s.staging.destination = some scene → scene ∈ game.story.sceneIds
  store : ∀ name ∈ game.story.variableDefs.map VariableDef.name, s.store.contains name = true

variable {game : Game} {s : Session}

theorem Guided.told (h : Guided game s) : Guided game s.told :=
  ⟨h.scene, h.lines, h.destination, h.store⟩

/-- Entering a scene of the story keeps a reader guided, whatever was staged. -/
theorem guided_arrival {scene : Text} (known : scene ∈ game.story.sceneIds)
    (store : ∀ name ∈ game.story.variableDefs.map VariableDef.name, s.store.contains name = true) :
    Guided game (s.arrival game scene) :=
  ⟨known, rfl, nofun, store⟩

theorem guided_start (checked : game.story.Checked game.config) (s : Session) :
    Guided game (s.start game).session := by
  cases Session.beginning_start game s with
  | nowhere scenes eq => exact absurd scenes checked.scenes
  | atScene first rest scenes eq =>
    rw [eq]
    simp only [Session.goTo_eq, Session.notify_eq]
    have known : first.id ∈ game.story.sceneIds := by simp [Story.sceneIds, scenes]
    refine (guided_arrival known ?_).told
    exact fun name mem => (Store.contains_ofDefs_iff _ name).mpr mem

theorem Guided.advance (h : Guided game s) : Guided game s.advance.session := by
  cases Session.reading_advance s with
  | gated gate eq => rw [eq]; exact h
  | acknowledged away staged eq =>
    rw [eq]; exact Guided.told ⟨h.scene, h.lines, h.destination, h.store⟩
  | next away free more eq =>
    rw [eq]; exact Guided.told ⟨h.scene, h.lines, h.destination, h.store⟩
  | last away free done eq => rw [eq]; exact h

theorem Guided.recorded (h : Guided game s) (choice : Choice) :
    Guided game (s.recorded game choice) :=
  ⟨h.scene, h.lines, h.destination,
    fun name mem => Effect.contains_apply choice.effect (h.store name mem)⟩

theorem mem_choices_of_openChoices {choice : Choice} (offered : choice ∈ s.openChoices game) :
    choice ∈ game.story.choices := by
  unfold Session.openChoices at offered
  split at offered
  · exact (List.mem_filter.mp (List.mem_filter.mp offered).1).1
  · simp at offered

/-- **A choice of a checked story leads to a scene of it**, also when the variables and a draw
decide to which. -/
theorem mem_sceneIds_of_destination (checked : game.story.Checked game.config) {choice : Choice}
    (mem : choice ∈ game.story.choices) {scene : Text} {source : Source}
    (resolved : s.destination game choice = .ok (scene, source)) :
    scene ∈ game.story.sceneIds := by
  unfold Session.destination at resolved
  split at resolved
  · rename_i leads
    exact checked.endings choice mem leads scene (Ending.mem_endings_of_resolve resolved)
  · rename_i named
    rw [← (Prod.mk.inj (Except.ok.inj resolved)).1]
    exact (checked.destinations choice mem).resolve_left named

/-- What is staged is the destination that was asked for. -/
theorem Staging.eq_of_nonempty {text staged : Text} (h : nonempty text = some staged) :
    staged = text := by
  unfold nonempty at h
  split at h
  · contradiction
  · exact (Option.some.inj h).symm

theorem Guided.select (h : Guided game s) (checked : game.story.Checked game.config)
    {choice : Choice} (mem : choice ∈ game.story.choices) :
    Guided game (s.select game choice).session := by
  cases Session.selection_select game choice s with
  | ignored away eq => rw [eq]; exact h
  | effectFailed gate fault broken eq => rw [eq]; exact h.recorded choice
  | endingFailed gate fault applied broken eq => rw [eq]; exact h.recorded choice
  | staged gate scene source applied resolved eq =>
    rw [eq]
    refine Guided.told ⟨h.scene, h.lines, ?_, (h.recorded choice).store⟩
    intro staged hs
    rw [Staging.eq_of_nonempty hs]
    exact mem_sceneIds_of_destination checked mem resolved

theorem Guided.complete (h : Guided game s) : Guided game (s.complete game).session := by
  cases Session.completion_complete game s with
  | nothing free eq => rw [eq]; exact h
  | entered scene staged named eq =>
    rw [eq, Session.goTo_eq]
    exact (guided_arrival (h.destination scene staged) h.store).told

/-- A save of a guided session guides every other one. -/
theorem Guided.load {t : Session} (h : Guided game t) (s : Session) :
    Guided game (s.load game t.save).session := by
  rw [Session.load_eq]
  exact Guided.told ⟨h.scene, rfl, nofun, h.store⟩

/-- **The invariant along a reading**, by induction on how it came about. -/
theorem guided_of_played (checked : game.story.Checked game.config) (h : Played game s) :
    Guided game s := by
  induction h with
  | start s => exact guided_start checked s
  | advance _ ih => exact ih.advance
  | select _ offered ih => exact ih.select checked (mem_choices_of_openChoices offered)
  | complete _ ih => exact ih.complete
  | load _ _ _ iht => exact iht.load _

/-! ## 4. What a checked story spares its readers -/

/-- The line that is read is a line of the story. -/
theorem Guided.line_mem (h : Guided game s) {line : Line} (current : s.line? = some line) :
    line ∈ game.story.lines := by
  have mem : line ∈ s.lines := List.mem_of_getElem? current
  rw [h.lines] at mem
  exact (List.mem_filter.mp mem).1

theorem choicesOf_ne_nil {story : Story} {group : Text}
    (known : group ∈ story.choices.map Choice.group) : story.choicesOf group ≠ [] := by
  obtain ⟨choice, mem, rfl⟩ := List.mem_map.mp known
  exact List.ne_nil_of_mem (List.mem_filter.mpr ⟨mem, beq_self_eq_true _⟩)

theorem Line.group?_eq_none {line : Line} (spoken : line.isGate = false) : line.group? = none := by
  simp [Line.group?, spoken]

theorem Guided.onCourse (h : Guided game s) (checked : game.story.Checked game.config) :
    OnCourse game s where
  scene := (Story.isSome_scene?_iff _ _).mpr h.scene
  destination := fun scene staged => (Story.isSome_scene?_iff _ _).mpr (h.destination scene staged)
  gate := fun line group current gate =>
    choicesOf_ne_nil (checked.gates line (h.line_mem current) group gate)
  speaker := fun line current spoken => by
    rw [Story.isSome_character?_iff]
    exact checked.speakers line (h.line_mem current) (Line.group?_eq_none spoken)
  conditions := fun _ _ _ _ choice mem clause part => by
    obtain ⟨c, read, known⟩ :=
      checked.conditions choice (List.mem_filter.mp mem).1 clause part
    exact ⟨c, read, h.store c.name known⟩
  effects := fun choice offered clause part =>
    Option.isSome_iff_exists.mp
      (checked.effects choice (mem_choices_of_openChoices offered) clause part)

/-- **Checking is sound for play**: a story in which the check finds no problem keeps every reader
on course who only does what is offered. -/
theorem onCourse_of_played (game : Game) (s : Session)
    (clean : game.story.review game.config = .ok []) (played : Played game s) :
    OnCourse game s :=
  have checked := Story.checked_of_review clean
  (guided_of_played checked played).onCourse checked

/-- On the road: on to the fork, going on there, and taking up a save made at the fork. -/
theorem onCourse_on_road :
    let fork := (Session.start crossroads (.fresh .constant)).session.advance.session
    let gone := (fork.select crossroads goingOn).session
    let back := (gone.load crossroads fork.save).session
    crossroads.story.review crossroads.config = .ok [] ∧ Played crossroads back ∧
      OnCourse crossroads back := by
  intro fork gone back
  have clean : crossroads.story.review crossroads.config = .ok [] := by
    rw [Story.review, if_neg (by decide +kernel)]
    exact congrArg Except.ok (by decide +kernel)
  have atFork : Played crossroads fork := (Played.start _).advance
  have played : Played crossroads back := (atFork.select (by decide +kernel)).load atFork
  exact ⟨clean, played, onCourse_of_played crossroads back clean played⟩

end Gamebook

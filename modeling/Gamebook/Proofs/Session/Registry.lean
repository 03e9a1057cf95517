/-
# Who is called in a round

Those who listen may remove one another while they are called.  This file settles whom a
notification calls nevertheless, in `orderly_after`.

* **In full view.**  `Listeners.notify` says what a notification leads to.  Here it is carried out
  one call after another, and everything that happens is written into a log (`Registry`).  What
  somebody removes who is called may hang on all that happened before (`Temper`), so that nothing is
  assumed of how listeners behave.
* **Who is enlisted** can be read off the log: who was added and not removed since (`enlisted`).
  The registry keeps to it through every removal, from outside or by one who is called
  (`kept_after`), and so a round calls who is enlisted when it begins.
* **Handles are never given out twice**, so that who is removed stays away.
-/
import Gamebook.Session.Listeners
import Mathlib.Data.List.Nodup

namespace Gamebook

/-! ## 1. Registries in full view -/

/-- What happens to a registry. -/
inductive Incident where
  /-- A listener was added, under a handle of its own. -/
  | added (entry : Nat × Listener)
  /-- A handle was removed, from outside or by one who was called. -/
  | removed (handle : Nat)
  /-- A notification began. -/
  | began
  | called (entry : Nat × Listener)
deriving DecidableEq

/-- The one who was added, if somebody was. -/
def Incident.added? : Incident → Option (Nat × Listener)
  | .added entry => some entry
  | _ => none

/-- The one who was called, if somebody was. -/
def Incident.called? : Incident → Option (Nat × Listener)
  | .called entry => some entry
  | _ => none

/-- The handles that one who is called removes, after all that happened before. -/
abbrev Temper := List Incident → Nat × Listener → List Nat

/-- Those who remove what they were registered to remove, whatever happened before. -/
def Temper.constant : Temper := fun _ entry => entry.2.removes

/-- The registered listeners, with the log of what happened. -/
structure Registry where
  listeners : Listeners := {}
  log : List Incident := []
deriving DecidableEq

namespace Registry

/-- Registers a listener. -/
def add (r : Registry) (listener : Listener) : Registry :=
  ⟨r.listeners.add listener, r.log ++ [.added (r.listeners.next, listener)]⟩

/-- Removes the listener of a handle. -/
def remove (r : Registry) (handle : Nat) : Registry :=
  ⟨r.listeners.remove handle, r.log ++ [.removed handle]⟩

/-- Writes into the log. -/
def note (r : Registry) (incident : Incident) : Registry := { r with log := r.log ++ [incident] }

/-- Calls a listener, who removes what it likes. -/
def call (temper : Temper) (r : Registry) (entry : Nat × Listener) : Registry :=
  (temper r.log entry).foldl remove (r.note (.called entry))

/-- Calls, one after another, the listeners that are registered by now. -/
def notify (temper : Temper) (r : Registry) : Registry :=
  r.listeners.entries.foldl (call temper) (r.note .began)

end Registry

/-- What is asked of a registry. -/
inductive Request where
  | add (listener : Listener)
  | remove (handle : Nat)
  | notify

/-- Carries out a request. -/
def Request.carry (temper : Temper) (r : Registry) : Request → Registry
  | .add listener => r.add listener
  | .remove handle => r.remove handle
  | .notify => r.notify temper

/-- A registry after some requests. -/
def Registry.after (temper : Temper) (requests : List Request) : Registry :=
  requests.foldl (Request.carry temper) {}

/-! ## 2. Who is enlisted -/

/-- **Who is enlisted after a log**: who was added and not removed since, in order of being
added. -/
def enlisted : List Incident → List (Nat × Listener)
  | [] => []
  | .added entry :: rest =>
    if .removed entry.1 ∈ rest then enlisted rest else entry :: enlisted rest
  | _ :: rest => enlisted rest

section

variable {log : List Incident} {entry : Nat × Listener} {handle : Nat}

theorem mem_enlisted_iff :
    entry ∈ enlisted log ↔
      ∃ past future, log = past ++ .added entry :: future ∧ .removed entry.1 ∉ future := by
  induction log with
  | nil => simp [enlisted]
  | cons incident rest ih =>
    have later : (∃ past future, incident :: rest = past ++ .added entry :: future ∧
        .removed entry.1 ∉ future) ↔
        (incident = .added entry ∧ .removed entry.1 ∉ rest) ∨ entry ∈ enlisted rest := by
      rw [ih]
      constructor
      · rintro ⟨past, future, split, stays⟩
        cases past with
        | nil =>
          obtain ⟨rfl, rfl⟩ := List.cons.inj split
          exact .inl ⟨rfl, stays⟩
        | cons first past =>
          obtain ⟨rfl, rfl⟩ := List.cons.inj split
          exact .inr ⟨past, future, rfl, stays⟩
      · rintro (⟨rfl, stays⟩ | ⟨past, future, rfl, stays⟩)
        · exact ⟨[], rest, rfl, stays⟩
        · exact ⟨incident :: past, future, rfl, stays⟩
    rw [later]
    cases incident with
    | added other =>
      rw [enlisted]
      split
      · rename_i gone
        refine ⟨.inr, fun present => present.resolve_left ?_⟩
        rintro ⟨same, stays⟩
        obtain rfl := Incident.added.inj same
        exact stays gone
      · rename_i stays
        rw [List.mem_cons]
        refine or_congr_left ?_
        constructor
        · rintro rfl
          exact ⟨rfl, stays⟩
        · rintro ⟨same, -⟩
          exact (Incident.added.inj same).symm
    | removed other | began | called other => simp [enlisted]

/-- One who is added is enlisted behind all others. -/
theorem enlisted_concat_added (log : List Incident) (entry : Nat × Listener) :
    enlisted (log ++ [.added entry]) = enlisted log ++ [entry] := by
  induction log with
  | nil => simp [enlisted]
  | cons incident rest ih =>
    cases incident with
    | added other =>
      simp only [List.cons_append, enlisted, ih, List.mem_append, List.mem_singleton, reduceCtorEq,
        or_false]
      split <;> rfl
    | removed other | began | called other => exact ih

/-- A removal takes away who has the handle, and nobody else. -/
theorem enlisted_concat_removed (log : List Incident) (handle : Nat) :
    enlisted (log ++ [.removed handle]) = (enlisted log).filter (·.1 != handle) := by
  induction log with
  | nil => rfl
  | cons incident rest ih =>
    cases incident with
    | added other =>
      simp only [List.cons_append, enlisted, ih, List.mem_append, List.mem_singleton,
        Incident.removed.injEq]
      by_cases gone : .removed other.1 ∈ rest
      · simp [gone]
      · by_cases same : other.1 = handle
        · subst same
          simp [gone]
        · simp [gone, same]
    | removed other | began | called other => exact ih

/-- Beginning a round and calling somebody change nobody's registration. -/
theorem enlisted_concat_of_quiet {incident : Incident} (quiet : incident = .began ∨
    ∃ entry, incident = .called entry) (log : List Incident) :
    enlisted (log ++ [incident]) = enlisted log := by
  induction log with
  | nil => rcases quiet with rfl | ⟨entry, rfl⟩ <;> rfl
  | cons first rest ih =>
    cases first with
    | added other =>
      have same : .removed other.1 ∈ rest ++ [incident] ↔ .removed other.1 ∈ rest := by
        rcases quiet with rfl | ⟨entry, rfl⟩ <;> simp
      simp only [List.cons_append, enlisted, ih, same]
    | removed other | began | called other => exact ih

/-- Who is enlisted was added, in this order. -/
theorem enlisted_sublist (log : List Incident) :
    (enlisted log).Sublist (log.filterMap Incident.added?) := by
  induction log with
  | nil => exact List.Sublist.refl _
  | cons incident rest ih =>
    cases incident with
    | added other =>
      simp only [enlisted, List.filterMap_cons, Incident.added?]
      split
      · exact ih.cons other
      · exact ih.cons_cons other
    | removed other | began | called other => exact ih

end

/-! ## 3. The registry keeps to its log -/

namespace Registry

variable {temper : Temper} {r : Registry}

/-- **The invariant of a registry**: it holds who is enlisted, and every handle is a new one. -/
structure Kept (r : Registry) : Prop where
  current : r.listeners.entries = enlisted r.log
  distinct : ((r.log.filterMap Incident.added?).map Prod.fst).Nodup
  fresh : ∀ entry ∈ r.log.filterMap Incident.added?, entry.1 < r.listeners.next

/-- What adds nobody gives out no handle. -/
theorem filterMap_added_concat {incident : Incident} (other : incident.added? = none)
    (log : List Incident) :
    (log ++ [incident]).filterMap Incident.added? = log.filterMap Incident.added? := by
  simp [other]

theorem kept_empty : Kept {} := ⟨rfl, List.nodup_nil, nofun⟩

theorem Kept.add (kept : r.Kept) (listener : Listener) : (r.add listener).Kept where
  current := by
    rw [Registry.add, enlisted_concat_added, ← kept.current]
    rfl
  distinct := by
    rw [Registry.add, List.filterMap_append, List.map_append]
    refine List.nodup_append.mpr ⟨kept.distinct, List.nodup_singleton _, ?_⟩
    intro handle old new given same
    obtain ⟨entry, mem, rfl⟩ := List.mem_map.mp old
    rw [List.mem_singleton.mp given] at same
    exact absurd same (Nat.ne_of_lt (kept.fresh entry mem))
  fresh := by
    intro entry mem
    rw [Registry.add, List.filterMap_append] at mem
    rcases List.mem_append.mp mem with old | new
    · exact Nat.lt_succ_of_lt (kept.fresh entry old)
    · rw [List.mem_singleton.mp new]
      exact Nat.lt_succ_self _

theorem Kept.remove (kept : r.Kept) (handle : Nat) : (r.remove handle).Kept where
  current := by
    rw [Registry.remove, enlisted_concat_removed, ← kept.current]
    rfl
  distinct := by
    rw [Registry.remove, filterMap_added_concat rfl]
    exact kept.distinct
  fresh := by
    rw [Registry.remove, filterMap_added_concat rfl]
    exact kept.fresh

theorem Kept.note (kept : r.Kept) (incident : Incident) (quiet : incident = .began ∨
    ∃ entry, incident = .called entry) : (r.note incident).Kept where
  current := by
    rw [Registry.note, enlisted_concat_of_quiet quiet]
    exact kept.current
  distinct := by
    rw [Registry.note, filterMap_added_concat (by rcases quiet with rfl | ⟨entry, rfl⟩ <;> rfl)]
    exact kept.distinct
  fresh := by
    rw [Registry.note, filterMap_added_concat (by rcases quiet with rfl | ⟨entry, rfl⟩ <;> rfl)]
    exact kept.fresh

/-- A call keeps the invariant, whatever is removed by the one who is called. -/
theorem Kept.call (kept : r.Kept) (temper : Temper) (entry : Nat × Listener) :
    (r.call temper entry).Kept := by
  unfold Registry.call
  have noted := kept.note (.called entry) (.inr ⟨entry, rfl⟩)
  generalize r.note (.called entry) = before at noted
  induction temper r.log entry generalizing before with
  | nil => exact noted
  | cons handle rest ih => exact ih _ (noted.remove handle)

theorem Kept.notify (kept : r.Kept) (temper : Temper) : (r.notify temper).Kept := by
  unfold Registry.notify
  have noted := kept.note .began (.inl rfl)
  generalize r.note .began = before at noted
  induction r.listeners.entries generalizing before with
  | nil => exact noted
  | cons entry rest ih => exact ih _ (noted.call temper entry)

theorem kept_carry (temper : Temper) (request : Request) (kept : r.Kept) :
    (request.carry temper r).Kept := by
  cases request with
  | add listener => exact kept.add listener
  | remove handle => exact kept.remove handle
  | notify => exact kept.notify temper

/-- **Whatever is asked of a registry, it keeps to its log.** -/
theorem kept_after (temper : Temper) (requests : List Request) : (after temper requests).Kept := by
  unfold after
  have kept := kept_empty
  generalize ({} : Registry) = before at kept
  induction requests generalizing before with
  | nil => exact kept
  | cons request rest ih => exact ih _ (kept_carry temper request kept)

/-! ## 4. Rounds -/

theorem foldl_remove (handles : List Nat) (r : Registry) :
    handles.foldl remove r =
      ⟨r.listeners.removeAll handles, r.log ++ handles.map Incident.removed⟩ := by
  induction handles generalizing r with
  | nil => simp [Listeners.removeAll]
  | cons handle rest ih => simp [ih, remove, Listeners.removeAll]

/-- Everybody of a list is called once and in order, whoever is removed meanwhile. -/
theorem log_foldl_call (entries : List (Nat × Listener)) (r : Registry) :
    ∃ round, (entries.foldl (call temper) r).log = r.log ++ round ∧ .began ∉ round ∧
      round.filterMap Incident.called? = entries := by
  induction entries generalizing r with
  | nil => exact ⟨[], by simp⟩
  | cons entry rest ih =>
    obtain ⟨round, log, within, calls⟩ := ih (r.call temper entry)
    have removals :
        ((temper r.log entry).map Incident.removed).filterMap Incident.called? = [] := by
      simp [List.filterMap_eq_nil_iff, Incident.called?]
    refine ⟨.called entry :: (temper r.log entry).map .removed ++ round, ?_, ?_, ?_⟩
    · rw [List.foldl_cons, log, call, foldl_remove]
      simp [note]
    · simp [within]
    · simp only [List.filterMap_append, List.filterMap_cons, Incident.called?, removals, calls,
        List.cons_append, List.nil_append]

/-- A round calls who is enlisted when it begins. -/
theorem Kept.log_notify (kept : r.Kept) (temper : Temper) :
    ∃ round, (r.notify temper).log = r.log ++ .began :: round ∧ .began ∉ round ∧
      round.filterMap Incident.called? = enlisted r.log := by
  obtain ⟨round, log, within, calls⟩ := log_foldl_call r.listeners.entries (r.note .began)
  refine ⟨round, ?_, within, calls.trans kept.current⟩
  rw [Registry.notify, log, Registry.note, List.append_assoc]
  rfl

/-- Where nobody minds what happened before, a round is a notification as it runs. -/
theorem foldl_call_constant (entries : List (Nat × Listener)) (r : Registry) :
    (entries.foldl (call .constant) r).listeners =
      (entries.map Prod.snd).foldl (fun left listener => left.removeAll listener.removes)
        r.listeners := by
  induction entries generalizing r with
  | nil => rfl
  | cons entry rest ih =>
    rw [List.foldl_cons, ih, call, foldl_remove]
    rfl

/-! ## 5. Removals -/

/-- Whether a handle was given out and removed since. -/
def Out (handle : Nat) (log : List Incident) : Prop :=
  ∃ past future listener, log = past ++ .removed handle :: future ∧
    .added (handle, listener) ∈ past

theorem Out.append {handle : Nat} {log : List Incident} (out : Out handle log)
    (more : List Incident) : Out handle (log ++ more) := by
  obtain ⟨past, future, listener, rfl, given⟩ := out
  exact ⟨past, future ++ more, listener, by simp, given⟩

/-- Who is removed is enlisted no more, as nobody else gets the handle. -/
theorem Kept.not_mem_of_out {handle : Nat} (kept : r.Kept) (out : Out handle r.log)
    (listener : Listener) : (handle, listener) ∉ enlisted r.log := by
  obtain ⟨past, future, first, log, given⟩ := out
  have distinct := kept.distinct
  intro mem
  obtain ⟨before, later, split, stays⟩ := mem_enlisted_iff.mp mem
  rw [log, List.filterMap_append, List.map_append] at distinct
  -- The two ways to split the log: the handle is given out again, or is removed later on.
  rcases List.append_eq_append_iff.mp (log.symm.trans split) with
    ⟨middle, -, again⟩ | ⟨middle, -, again⟩
  · have readded : .added (handle, listener) ∈ Incident.removed handle :: future := by
      rw [again]
      exact List.mem_append_right _ List.mem_cons_self
    refine (List.nodup_append.mp distinct).2.2 handle ?_ handle ?_ rfl
    · exact List.mem_map.mpr ⟨_, List.mem_filterMap.mpr ⟨_, given, rfl⟩, rfl⟩
    · exact List.mem_map.mpr ⟨_, List.mem_filterMap.mpr ⟨_, readded, rfl⟩, rfl⟩
  · have removal : .removed handle ∈ Incident.added (handle, listener) :: later := by
      rw [again]
      exact List.mem_append_right _ List.mem_cons_self
    exact stays ((List.mem_cons.mp removal).resolve_left nofun)

/-- One request more, and who is removed is not called meanwhile. -/
theorem Kept.log_carry {handle : Nat} (kept : r.Kept) (out : Out handle r.log) (temper : Temper)
    (request : Request) :
    ∃ more, (request.carry temper r).log = r.log ++ more ∧
      ∀ listener, .called (handle, listener) ∉ more := by
  cases request with
  | add listener => exact ⟨_, rfl, by simp⟩
  | remove other => exact ⟨_, rfl, by simp⟩
  | notify =>
    obtain ⟨round, log, -, calls⟩ := kept.log_notify temper
    refine ⟨_, log, fun listener mem => kept.not_mem_of_out out listener ?_⟩
    rw [← calls, List.mem_filterMap]
    exact ⟨_, (List.mem_cons.mp mem).resolve_left nofun, rfl⟩

/-- **Who is removed is called in no later round**, whatever is asked of the registry. -/
theorem Kept.log_foldl_carry {handle : Nat} (kept : r.Kept) (out : Out handle r.log)
    (temper : Temper) (requests : List Request) :
    ∃ more, (requests.foldl (Request.carry temper) r).log = r.log ++ more ∧
      ∀ listener, .called (handle, listener) ∉ more := by
  induction requests generalizing r with
  | nil => exact ⟨[], by simp⟩
  | cons request rest ih =>
    obtain ⟨now, logNow, silentNow⟩ := kept.log_carry out temper request
    obtain ⟨more, log, silent⟩ :=
      ih (kept_carry temper request kept) (by rw [logNow]; exact out.append now)
    refine ⟨now ++ more, ?_, fun listener mem => ?_⟩
    · rw [List.foldl_cons, log, logNow, List.append_assoc]
    · exact (List.mem_append.mp mem).elim (silentNow listener) (silent listener)

/-- A handle that nobody has removes nobody. -/
theorem remove_of_not_mem {handle : Nat}
    (absent : ∀ listener, (handle, listener) ∉ r.listeners.entries) :
    (r.remove handle).listeners = r.listeners := by
  have stays : r.listeners.entries.filter (·.1 != handle) = r.listeners.entries := by
    refine List.filter_eq_self.mpr fun entry mem => bne_iff_ne.mpr ?_
    rintro rfl
    exact absent entry.2 mem
  rw [remove, Listeners.remove, stays]

/-- Where handles are distinct, one handle removes one entry, and all others stay in order. -/
theorem filter_handle {before after : List (Nat × Listener)} {entry : Nat × Listener}
    (distinct : ((before ++ entry :: after).map Prod.fst).Nodup) :
    (before ++ entry :: after).filter (·.1 != entry.1) = before ++ after := by
  rw [List.map_append, List.map_cons, List.nodup_middle, List.nodup_cons] at distinct
  have others : (before ++ after).filter (·.1 != entry.1) = before ++ after := by
    refine List.filter_eq_self.mpr fun other mem => bne_iff_ne.mpr fun same => distinct.1 ?_
    rw [← same, ← List.map_append]
    exact List.mem_map_of_mem mem
  rw [List.filter_append] at others
  rw [List.filter_append, List.filter_cons_of_neg (by simp), others]

/-! ## 6. What holds after all requests -/

/-- **What can be relied on about a registry** where whoever is called removes what it likes. -/
structure Orderly (temper : Temper) (r : Registry) : Prop where
  /-- Registered is who was added and not removed since … -/
  current : ∀ entry, entry ∈ r.listeners.entries ↔
    ∃ past future, r.log = past ++ .added entry :: future ∧ .removed entry.1 ∉ future
  /-- … in order of being added, each under a handle of its own. -/
  inOrder : r.listeners.entries.Sublist (r.log.filterMap Incident.added?) ∧
    (r.listeners.entries.map Prod.fst).Nodup
  /-- A notification is one round, which calls exactly those who are registered when it begins, once
  each and in order of registration, whomever they remove. -/
  round : ∃ round, (r.notify temper).log = r.log ++ .began :: round ∧ .began ∉ round ∧
    round.filterMap Incident.called? = r.listeners.entries
  /-- A handle removes the one registration that it was given out for … -/
  removes : ∀ before entry after, r.listeners.entries = before ++ entry :: after →
    (r.remove entry.1).listeners.entries = before ++ after
  /-- … and nobody when it is used once more. -/
  again : ∀ handle, Out handle r.log → (r.remove handle).listeners = r.listeners
  /-- Who is removed is never called again. -/
  gone : ∀ handle, Out handle r.log → ∀ requests : List Request,
    ∃ more, (requests.foldl (Request.carry temper) r).log = r.log ++ more ∧
      ∀ listener, .called (handle, listener) ∉ more
  /-- Who removes the same whatever happened is notified by the registry that runs. -/
  runs : r.listeners.notify =
    (r.listeners.entries.map Prod.snd, (r.notify .constant).listeners)

theorem Kept.orderly (kept : r.Kept) (temper : Temper) : Orderly temper r where
  current entry := by
    rw [kept.current]
    exact mem_enlisted_iff
  inOrder := by
    rw [kept.current]
    have order := enlisted_sublist r.log
    exact ⟨order, kept.distinct.sublist (order.map Prod.fst)⟩
  round := by
    rw [kept.current]
    exact kept.log_notify temper
  removes before entry after split := by
    have distinct := kept.distinct.sublist ((enlisted_sublist r.log).map Prod.fst)
    rw [← kept.current, split] at distinct
    rw [Registry.remove, Listeners.remove, split]
    exact filter_handle distinct
  again handle out := by
    refine remove_of_not_mem fun listener => ?_
    rw [kept.current]
    exact kept.not_mem_of_out out listener
  gone handle out := kept.log_foldl_carry out temper
  runs := by
    rw [Registry.notify, foldl_call_constant]
    rfl

/-- **Whatever is asked of a registry, and whomever those remove who are called, it stays in
order.** -/
theorem orderly_after (temper : Temper) (requests : List Request) :
    Orderly temper (after temper requests) :=
  (kept_after temper requests).orderly temper

/-- Two registrations of one listener, who removes the second one when called: the round that has
begun still calls it, the next one does not. -/
example :
    (after (fun _ _ => [1]) [.add ⟨"page", []⟩, .add ⟨"page", []⟩, .notify, .notify]).log.filterMap
      Incident.called? = [(0, ⟨"page", []⟩), (1, ⟨"page", []⟩), (0, ⟨"page", []⟩)] := by decide

end Registry
end Gamebook

/-
# Variables stay well-typed

Variables are written in three ways: as the text of a definition reads, by the clauses of effects,
and from saves that are taken up.  This file settles that none of them leaves anything but truth
values, integers and doubles other than NaN, at any time, in `wellTyped_through`.

* **Numbers.**  No text reads as NaN.  Adding an integer to a double cannot give NaN, either: the
  double of an integer is finite, so that no infinities cancel out (`Binary64.isNaN_add`).  The sum
  may well be infinite.
* **Clauses** give proper values, whatever their variable held before (`Change.proper_value`): a
  step on a NaN would begin at zero.
* **Runs.**  So the variables stay proper as long as nothing else is brought in from outside
  (`Event.Proper`); a document that is accepted as a save can bring a NaN, but nothing worse.
-/
import Gamebook.Proofs.Number.Plain
import Gamebook.Proofs.Session.History
import Gamebook.Proofs.Session.Stores

namespace Gamebook

/-! ## 1. Numbers -/

namespace Binary64

variable {x y : Binary64}

/-- Whether a double is neither infinite nor NaN. -/
def isFinite : Binary64 → Bool
  | .finite .. => true
  | .infinite _ | .nan => false

theorem isNaN_ofUnits (units : Int) : (ofUnits units).isNaN = false := by
  unfold ofUnits ofQuotient
  split <;> rfl

/-- The double of an integer is finite, if there is one. -/
theorem isFinite_ofInt? {n : Int} (near : ofInt? n = some x) : x.isFinite = true := by
  have number := isNaN_ofUnits (n * unitsPerOne)
  unfold ofInt? at near
  generalize ofUnits (n * unitsPerOne) = rounded at near number
  cases rounded with
  | finite negative units fits =>
    obtain rfl := Option.some.inj near
    rfl
  | infinite negative => contradiction
  | nan => contradiction

theorem isFinite_neg (h : x.isFinite = true) : x.neg.isFinite = true := by
  cases x with
  | finite negative units fits => rfl
  | infinite negative => contradiction
  | nan => contradiction

/-- **Adding something finite never gives NaN.** -/
theorem isNaN_add (h : x.isNaN = false) (finite : y.isFinite = true) :
    (x.add y).isNaN = false := by
  cases y with
  | infinite negative => contradiction
  | nan => contradiction
  | finite t v fits =>
    cases x with
    | nan => contradiction
    | infinite s => rfl
    | finite s u fits' =>
      unfold add
      simp only
      split
      · rfl
      · exact isNaN_ofUnits _

end Binary64

namespace Number

variable {a sum : Number} {n : Int}

theorem isFinite_of_toBinary64 {x : Binary64} (near : (int n).toBinary64 = .ok x) :
    x.isFinite = true := by
  unfold toBinary64 at near
  simp only at near
  cases found : Binary64.ofInt? n with
  | none =>
    rw [found] at near
    contradiction
  | some y =>
    rw [found] at near
    obtain rfl := Except.ok.inj near
    exact Binary64.isFinite_ofInt? found

theorem isNaN_addInt (h : a.isNaN = false) (added : a.addInt n = .ok sum) :
    sum.isNaN = false := by
  cases a with
  | int m =>
    obtain rfl := Except.ok.inj added
    rfl
  | double x =>
    obtain ⟨y, near, added⟩ := bind_ok_iff.mp added
    obtain rfl := Except.ok.inj added
    exact Binary64.isNaN_add h (isFinite_of_toBinary64 near)

theorem isNaN_subInt (h : a.isNaN = false) (taken : a.subInt n = .ok sum) :
    sum.isNaN = false := by
  cases a with
  | int m =>
    obtain rfl := Except.ok.inj taken
    rfl
  | double x =>
    obtain ⟨y, near, taken⟩ := bind_ok_iff.mp taken
    obtain rfl := Except.ok.inj taken
    exact Binary64.isNaN_add h (Binary64.isFinite_neg (isFinite_of_toBinary64 near))

end Number

/-! ## 2. Values -/

namespace Value

/-- Whether a value is the double that is no number. -/
def isNaN : Value → Bool
  | .number n => n.isNaN
  | .bool _ | .null | .text _ => false

/-- Whether a value is such as a variable is to hold: a truth value, an integer, or a double other
than NaN. -/
def isProper (v : Value) : Bool := v.isPlain && !v.isNaN

theorem isProper_iff {v : Value} : v.isProper = true ↔ v.isPlain = true ∧ v.isNaN = false := by
  simp [isProper]

/-- Whatever a value is, the number that it counts as is not NaN. -/
theorem isNaN_toNumber (v : Value) : (v.toNumber .zero).isNaN = false := by
  unfold toNumber toNumber?
  cases v with
  | null => rfl
  | bool b => rfl
  | number n =>
    simp only
    cases number : n.isNaN with
    | true => rfl
    | false => exact number
  | text t =>
    simp only
    cases read : Number.ofText? t with
    | none => rfl
    | some n => exact Number.isNaN_of_ofText? read

end Value

/-- That an entry of a store is proper. -/
abbrev ProperEntry (_ : Text) (value : Value) : Prop := value.isProper = true

/-- A store of proper values. -/
def Store.Proper (store : Store) : Prop := store.All ProperEntry

/-- No value of a store is NaN. -/
def Store.NaNFree (store : Store) : Prop := store.All fun _ value => value.isNaN = false

instance (store : Store) : Decidable store.NaNFree :=
  inferInstanceAs (Decidable (∀ entry ∈ store.entries, entry.2.isNaN = false))

theorem Store.proper_iff {store : Store} : store.Proper ↔ store.Plain ∧ store.NaNFree := by
  constructor
  · intro proper
    have both (entry : Text × Value) (mem : entry ∈ store.entries) :=
      Value.isProper_iff.mp (proper entry mem)
    exact ⟨fun entry mem => (both entry mem).1, fun entry mem => (both entry mem).2⟩
  · rintro ⟨plain, free⟩ entry mem
    exact Value.isProper_iff.mpr ⟨plain entry mem, free entry mem⟩

theorem VariableDef.isNaN_value (d : VariableDef) : d.value.isNaN = false := by
  unfold VariableDef.value
  split
  · rfl
  · split
    · rfl
    · cases read : Number.ofText? d.initial with
      | none => rfl
      | some n => exact Number.isNaN_of_ofText? read

/-- **A clause never writes NaN**, whatever its variable held before. -/
theorem Change.isNaN_value {change : Change} {current value : Value}
    (given : change.value current = .ok value) : value.isNaN = false := by
  have number := current.isNaN_toNumber
  cases change with
  | setBool name b =>
    obtain rfl := Except.ok.inj given
    rfl
  | setNumber name digits =>
    obtain ⟨n, -, given⟩ := bind_ok_iff.mp given
    obtain rfl := Except.ok.inj given
    rfl
  | increase name digits =>
    obtain ⟨n, -, given⟩ := bind_ok_iff.mp given
    obtain ⟨sum, added, given⟩ := bind_ok_iff.mp given
    obtain rfl := Except.ok.inj given
    exact Number.isNaN_addInt number added
  | decrease name digits =>
    obtain ⟨n, -, given⟩ := bind_ok_iff.mp given
    obtain ⟨difference, taken, given⟩ := bind_ok_iff.mp given
    obtain rfl := Except.ok.inj given
    exact Number.isNaN_subInt number taken

/-- **Definitions and effects write proper values only.** -/
theorem written_proper : Written ProperEntry where
  defined d := Value.isProper_iff.mpr ⟨d.plain_value, d.isNaN_value⟩
  changed _ _ _ given :=
    Value.isProper_iff.mpr ⟨Change.plain_value given, Change.isNaN_value given⟩

/-! ## 3. Runs -/

/-- **An event brings nothing improper along**: neither a document that is taken up, nor a save, nor
a store that is put in the place of the variables.  Of a document that is refused nothing is asked,
and of one that is accepted no more than that it has no NaN. -/
def Event.Proper : Event → Prop
  | .call (.restore document) => ∀ save, Save.ofDatum document = .ok save → save.store.NaNFree
  | .call (.command (.load save)) | .step (.command (.load save)) => save.store.Proper
  | .step (.restore store) => store.Proper
  | .call (.command _) | .step _ => True

/-- A save that a proper event takes up has proper variables. -/
theorem Event.Proper.load {event : Event} (h : event.Proper) {save : Save}
    (asks : event.command? = some (.load save)) : save.store.Proper := by
  cases event with
  | call asked =>
    have reads := Event.command?_call_eq_some_iff.mp asks
    cases asked with
    | command asked =>
      obtain rfl := Except.ok.inj reads
      exact h
    | restore document =>
      obtain ⟨read, accepted, same⟩ := Call.restore_eq_ok_iff.mp reads
      obtain rfl := Command.load.inj same
      exact Store.proper_iff.mpr ⟨Save.plain_of_ofDatum accepted, h save accepted⟩
  | step taken =>
    cases taken with
    | command asked =>
      obtain rfl := Option.some.inj asks
      exact h
    | effect text | restore store | listen listener | unlisten handle | redraw source =>
      contradiction

namespace Session

variable {game : Game} {s : Session}

/-- **One event** keeps the variables proper, also if a fault breaks it off. -/
theorem proper_apply {event : Event} (h : event.Proper) (before : s.store.Proper) :
    (event.apply game s).store.Proper := by
  cases asks : event.command? with
  | some command =>
    rw [Event.apply_of_command asks]
    refine written_proper.run before ?_
    rintro save rfl
    exact h.load asks
  | none =>
    cases event with
    | call asked =>
      rw [Event.apply_of_refused asks]
      exact before
    | step taken =>
      cases taken with
      | command asked => contradiction
      | effect text => exact written_proper.applyClauses _ before
      | restore store => exact h
      | listen listener | unlisten handle | redraw source => exact before

theorem proper_through {events : List Event} (h : ∀ event ∈ events, event.Proper)
    (before : s.store.Proper) : (s.through game events).store.Proper := by
  induction events generalizing s with
  | nil => exact before
  | cons event rest ih =>
    obtain ⟨first, others⟩ := List.forall_mem_cons.mp h
    exact ih others (proper_apply first before)

/-- **Variables stay well-typed.**  Take any run of a new session in which the variables are written
by starts, by choices and effects, and from saves without NaN.  After each event of the run, also
after an effect that is broken off, every variable holds a truth value, an integer or a double other
than NaN; so that a save that is made then is accepted as a document, and read back as it was. -/
theorem wellTyped_through (game : Game) (source : Source) (listeners : Listeners)
    (events : List Event) (proper : ∀ event ∈ events, event.Proper) :
    ∀ past, past <+: events →
      let s := Session.through game { fresh source with listeners } past
      s.store.Proper ∧ Save.ofDatum s.save.toDatum = .ok s.save := by
  intro past before s
  have typed : s.store.Proper :=
    proper_through (fun event mem => proper event (before.subset mem)) Table.all_empty
  exact ⟨typed, Save.ofDatum_toDatum (Store.proper_iff.mp typed).1⟩

/-- A document of the risky road, with an infinite risk. -/
def hopeless : Datum :=
  .map [(.text "scene_id", .text "road"), (.text "dialogue_index", .int 1),
    (.text "variables", .map [(.text "risk", .atom (.number (.double (.infinite false))))])]

/-- On the risky road an effect is broken off, and a document with an infinite risk is taken up; the
risk stays infinite when it is taken down. -/
theorem wellTyped_on_road :
    let events : List Event :=
      [.call (.command .start), .step (.effect goingTooFar.effect), .call (.restore hopeless),
        .step (.effect "risk-1,courage+2")]
    let s := Session.through riskyRoad { fresh .constant with listeners := {} } events
    (∀ event ∈ events, event.Proper) ∧
      s.store.get "risk" = .number (.double (.infinite false)) ∧
      s.store.Proper ∧ Save.ofDatum s.save.toDatum = .ok s.save := by
  intro events s
  have proper : ∀ event ∈ events, event.Proper := by
    intro event mem
    simp only [events, List.mem_cons, List.not_mem_nil, or_false] at mem
    rcases mem with rfl | rfl | rfl | rfl
    · trivial
    · trivial
    · intro save accepted
      obtain rfl := Except.ok.inj accepted
      decide +kernel
    · trivial
  have risk : s.store.get "risk" = .number (.double (.infinite false)) := by decide +kernel
  have typed := wellTyped_through riskyRoad .constant {} events proper events (List.prefix_refl _)
  exact ⟨proper, risk, typed⟩

end Session

end Gamebook

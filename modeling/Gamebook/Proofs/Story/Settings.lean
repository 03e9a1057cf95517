/-
# The settings of a story

A configuration has twelve settings, each with a key of its own.  `Config.ofFields` reads them from
a mapping, and this file settles how much a value can do to a setting, in `readsSettings`.

* **Doubles.**  What is used as a number is given by its kind (`Counts`).  An integer beyond the
  finite doubles is not just of no use: its reading is a fault (`Vast`).
* **Warnings.**  A value that is of no use falls back to a default (`Falls`).  Of most of them is
  warned, and the warning shows the value; one that is nested too deeply for that is a fault, too.
* **Keys.**  A `Setting` is read from the value at its key, and from nothing else: `Gives` is what
  comes of that, be it a value or a fault.
* **Mappings.**  A mapping is read setting by setting (`ofFields_eq_ok_iff`), so that a value that
  is of no use leaves its own setting as it is by default, and all others as they are.  But it is
  read at all only if no setting is a fault; the first that is ends the reading
  (`ofFields_eq_error_iff`).
-/
import Gamebook.Proofs.Number.Arithmetic
import Gamebook.Proofs.Story.Signposts

namespace Gamebook

open Layered

namespace Config

variable {δ : Type} [Layered δ] {d : δ} {fields others found : Fields δ} {key : Text} {n : Number}
  {fault : Fault} {logs : Bool}

/-! ## 1. Doubles -/

/-- **What counts as a double**, by its kind: a truth value, a double, an integer with a double near
it, and a numeral that is written as a text or in bytes of ASCII. -/
inductive Counts (d : δ) : Number → Prop
  | truth {b : Bool} (kind : layer d = .atom (.bool b)) : Counts d (.double (.ofBool b))
  | double {x : Binary64} (kind : layer d = .atom (.number (.double x))) : Counts d (.double x)
  | integer {m : Int} {x : Binary64} (kind : layer d = .atom (.number (.int m)))
      (near : Binary64.ofInt? m = some x) : Counts d (.double x)
  | text {t : Text} {x : Binary64} (kind : layer d = .atom (.text t))
      (numeral : Literal.double? t.toChars = some x) : Counts d (.double x)
  | bytes {bs : List UInt8} {x : Binary64} (kind : layer d = .atom (.bytes bs))
      (ascii : ∀ b ∈ bs, b < 128)
      (numeral : Literal.double? (bs.map fun b => Char.ofNat b.toNat) = some x) :
      Counts d (.double x)

/-- An integer beyond the finite doubles. -/
def Vast (d : δ) : Prop := ∃ n, layer d = .atom (.number n) ∧ n.Beyond

theorem toBinary64_int_eq_ok_iff {m : Int} {x : Binary64} :
    (Number.int m).toBinary64 = .ok x ↔ Binary64.ofInt? m = some x := by
  unfold Number.toBinary64
  simp only
  generalize Binary64.ofInt? m = near
  cases near <;> simp

/-- **Exactly what counts as a double is read as one.** -/
theorem readsDouble_iff : ReadsDouble d n ↔ Counts d n := by
  constructor
  · rintro ⟨x, read, rfl⟩
    unfold double? at read
    split at read
    · rename_i b kind
      obtain rfl := Option.some.inj (Except.ok.inj read)
      exact .truth kind
    · rename_i n kind
      cases near : n.toBinary64 with
      | error fault =>
        rw [near] at read
        cases read
      | ok y =>
        rw [near] at read
        obtain rfl := Option.some.inj (Except.ok.inj read)
        cases n with
        | int m => exact .integer kind (toBinary64_int_eq_ok_iff.mp near)
        | double z =>
          obtain rfl := Except.ok.inj near
          exact .double kind
    · rename_i t kind
      exact .text kind (Except.ok.inj read)
    · rename_i bs kind
      obtain ⟨ascii, numeral⟩ := Option.ite_none_right_eq_some.mp (Except.ok.inj read)
      exact .bytes kind (by simpa using ascii) numeral
    · cases read
  · intro counts
    unfold ReadsDouble double?
    cases counts with
    | truth kind => exact ⟨_, by rw [kind], rfl⟩
    | double kind => exact ⟨_, by rw [kind]; rfl, rfl⟩
    | integer kind near =>
      rw [kind]
      simp only [toBinary64_int_eq_ok_iff.mpr near]
      exact ⟨_, rfl, rfl⟩
    | text kind numeral =>
      rw [kind]
      exact ⟨_, congrArg _ numeral, rfl⟩
    | bytes kind ascii numeral =>
      rw [kind]
      simp only
      rw [if_pos (by simpa using ascii), numeral]
      exact ⟨_, rfl, rfl⟩

theorem double?_eq_some_iff {x : Binary64} :
    double? d = .ok (some x) ↔ Counts d (.double x) := by
  rw [← readsDouble_iff]
  constructor
  · intro read
    exact ⟨x, read, rfl⟩
  · rintro ⟨y, read, same⟩
    rwa [Number.double.inj same]

/-- **Only an integer beyond the doubles is a fault.** -/
theorem double?_eq_error_iff : double? d = .error fault ↔ fault = .tooLarge ∧ Vast d := by
  have atNumber (n : Number) :
      n.toBinary64.map some = .error fault ↔ fault = .tooLarge ∧ n.Beyond := by
    rw [← Number.toBinary64_eq_error_iff]
    cases n.toBinary64 <;> simp [Except.map]
  unfold double? Vast
  split <;> simp_all

/-- What is neither a double nor a fault is of no use. -/
theorem double?_eq_none_iff : double? d = .ok none ↔ ¬ Vast d ∧ ∀ n, ¬ Counts d n := by
  constructor
  · intro none
    refine ⟨fun vast => ?_, fun n counts => ?_⟩
    · have failed := double?_eq_error_iff.mpr ⟨rfl, vast⟩
      cases none.symm.trans failed
    · obtain ⟨x, read, -⟩ := readsDouble_iff.mpr counts
      cases none.symm.trans read
  · rintro ⟨near, none⟩
    cases read : double? d with
    | error fault => exact absurd (double?_eq_error_iff.mp read).2 near
    | ok x? =>
      cases x? with
      | none => rfl
      | some x => exact absurd (double?_eq_some_iff.mp read) (none _)

/-! ## 2. Texts, numbers and the seed at a key -/

/-- **What a useless value comes to**: the default, if it can be warned of the value. -/
inductive Falls {α : Type} (logs : Bool) (default : α) (d : δ) : Except Fault α → Prop
  | told (told : ¬ Untold logs d) : Falls logs default d (.ok default)
  | untold (untold : Untold logs d) : Falls logs default d (.error .tooDeep)

theorem warn_eq_iff {α : Type} {default : α} {result : Except Fault α} :
    (do warn logs d; return default) = result ↔ Falls logs default d result := by
  constructor
  · rintro rfl
    cases warned : warn logs d with
    | error fault =>
      obtain ⟨rfl, untold⟩ := warn_eq_error_iff.mp warned
      exact .untold untold
    | ok =>
      refine .told fun untold => ?_
      cases warned.symm.trans (warn_eq_error_iff.mpr ⟨rfl, untold⟩)
  · rintro (told | untold)
    · cases warned : warn logs d with
      | error fault => exact absurd (warn_eq_error_iff.mp warned).2 told
      | ok => rfl
    · rw [warn_eq_error_iff.mpr ⟨rfl, untold⟩]
      rfl

/-- What the value at a key, or none, comes to where a text should be. -/
inductive GivesText (logs : Bool) (default : Text) : Option δ → Except Fault Text → Prop
  | used {d : δ} {t : Text} (kind : layer d = .atom (.text t)) (nonempty : t ≠ []) :
      GivesText logs default (some d) (.ok t)
  | useless {d : δ} {result : Except Fault Text} (other : ∀ t, layer d = .atom (.text t) → t = [])
      (falls : Falls logs default d result) : GivesText logs default (some d) result
  | missing : GivesText logs default none (.ok default)

/-- What the value at a key comes to where a number should be.  If there is none, the default is
given as a double. -/
inductive GivesNumber (logs : Bool) (default : Number) : Option δ → Except Fault Number → Prop
  | used {d : δ} {n : Number} (counts : Counts d n) : GivesNumber logs default (some d) (.ok n)
  | vast {d : δ} (vast : Vast d) : GivesNumber logs default (some d) (.error .tooLarge)
  | useless {d : δ} {result : Except Fault Number} (near : ¬ Vast d) (other : ∀ n, ¬ Counts d n)
      (falls : Falls logs default d result) : GivesNumber logs default (some d) result
  | missing {x : Binary64} (near : default.toBinary64 = .ok x) :
      GivesNumber logs default none (.ok (.double x))

/-- What the value at a key comes to where the seed should be: an integer, which may be as large as
it likes. -/
inductive GivesSeed (logs : Bool) : Option δ → Except Fault (Option Int) → Prop
  | used {d : δ} {m : Int} (kind : layer d = .atom (.number (.int m))) :
      GivesSeed logs (some d) (.ok (some m))
  | null {d : δ} (kind : layer d = .atom .null) : GivesSeed logs (some d) (.ok none)
  | useless {d : δ} {result : Except Fault (Option Int)} (full : layer d ≠ .atom .null)
      (other : ∀ m, layer d ≠ .atom (.number (.int m))) (falls : Falls logs none d result) :
      GivesSeed logs (some d) result
  | missing : GivesSeed logs none (.ok none)

theorem textAt_eq_iff {default : Text} {result : Except Fault Text} :
    textAt logs fields key default = result ↔
      GivesText logs default (fields.named? key) result := by
  unfold textAt
  generalize fields.named? key = value?
  constructor
  · rintro rfl
    cases value? with
    | none => exact .missing
    | some d =>
      dsimp only
      split
      · rename_i c t kind
        exact .used kind (List.cons_ne_nil c t)
      · rename_i other
        refine .useless (fun t kind => ?_) (warn_eq_iff.mp rfl)
        cases t with
        | nil => rfl
        | cons c t => exact (other c t kind).elim
  · intro gives
    cases gives with
    | used kind nonempty =>
      obtain ⟨c, t, rfl⟩ := List.exists_cons_of_ne_nil nonempty
      simp only [kind]
    | useless other falls =>
      dsimp only
      split
      · rename_i c t kind
        exact absurd (other _ kind) (List.cons_ne_nil c t)
      · exact warn_eq_iff.mpr falls
    | missing => rfl

theorem doubleAt_eq_iff {default : Number} {result : Except Fault Number}
    (near : ¬ default.Beyond) :
    doubleAt logs fields key default = result ↔
      GivesNumber logs default (fields.named? key) result := by
  unfold doubleAt
  generalize fields.named? key = value?
  constructor
  · rintro rfl
    cases value? with
    | none =>
      cases read : default.toBinary64 with
      | error fault => exact absurd (Number.toBinary64_eq_error_iff.mp read).2 near
      | ok x => exact .missing read
    | some d =>
      dsimp only
      cases double : double? d with
      | error fault =>
        obtain ⟨rfl, vast⟩ := double?_eq_error_iff.mp double
        exact .vast vast
      | ok x? =>
        cases x? with
        | none =>
          obtain ⟨near, other⟩ := double?_eq_none_iff.mp double
          exact .useless near other (warn_eq_iff.mp rfl)
        | some x => exact .used (double?_eq_some_iff.mp double)
  · intro gives
    cases gives with
    | used counts =>
      obtain ⟨x, read, rfl⟩ := readsDouble_iff.mpr counts
      simp only [read]
      rfl
    | vast vast =>
      simp only [double?_eq_error_iff.mpr ⟨rfl, vast⟩]
      rfl
    | useless near other falls =>
      simp only [double?_eq_none_iff.mpr ⟨near, other⟩]
      exact warn_eq_iff.mpr falls
    | missing near =>
      simp only [near]
      rfl

theorem seedAt_eq_iff {result : Except Fault (Option Int)} :
    seedAt logs fields = result ↔ GivesSeed logs (fields.named? "seed") result := by
  unfold seedAt
  generalize fields.named? "seed" = value?
  constructor
  · rintro rfl
    cases value? with
    | none => exact .missing
    | some d =>
      dsimp only
      split
      · rename_i kind
        exact .null kind
      · rename_i kind
        exact .used kind
      · rename_i full other
        exact .useless full other (warn_eq_iff.mp rfl)
  · intro gives
    cases gives with
    | used kind => simp only [kind]
    | null kind => simp only [kind]
    | useless full other falls =>
      dsimp only
      split
      · rename_i kind
        exact absurd kind full
      · rename_i kind
        exact absurd kind (other _)
      · exact warn_eq_iff.mpr falls
    | missing => rfl

/-! ## 3. Milestones -/

/-- Whether a vast value stands among the entries about milestones where it is met: under a key that
has a text, and behind entries that can all be used. -/
inductive VastAmong : Fields δ → Prop
  | here {k : Atom} {name : Text} {value : δ} {rest : Fields δ} (text : k.plain = .ok name)
      (vast : Vast value) : VastAmong ((k, value) :: rest)
  | later {field : Atom × δ} {rest : Fields δ} (usable : Usable field) (among : VastAmong rest) :
      VastAmong (field :: rest)

/-- What the value at their key comes to where the milestones should be: all of them are given, or
the default. -/
inductive GivesMilestones (default : Table Number) :
    Option δ → Except Fault (Table Number) → Prop
  | used {d : δ} {found : Fields δ} {written : List (Text × Number)} (kind : layer d = .map found)
      (each : Posted Counts found written) :
      GivesMilestones default (some d) (.ok (Table.ofList written))
  | vast {d : δ} {found : Fields δ} (kind : layer d = .map found) (among : VastAmong found) :
      GivesMilestones default (some d) (.error .tooLarge)
  | useless {d : δ} {found : Fields δ} (kind : layer d = .map found) (near : ¬ VastAmong found)
      (bad : ∃ field ∈ found, ¬ Usable field) : GivesMilestones default (some d) (.ok default)
  | other {d : δ} (other : ∀ found, layer d ≠ .map found) :
      GivesMilestones default (some d) (.ok default)
  | missing : GivesMilestones default none (.ok default)

theorem milestonesOf_eq_some_iff {written : List (Text × Number)} :
    milestonesOf found = .ok (some written) ↔ Posted Counts found written := by
  induction found generalizing written with
  | nil =>
    rw [Posted, List.forall₂_nil_left_iff]
    simp [milestonesOf, eq_comm]
  | cons field rest ih =>
    obtain ⟨k, value⟩ := field
    rw [Posted, List.forall₂_cons_left_iff]
    constructor
    · intro read
      unfold milestonesOf at read
      split at read
      · cases read
      · rename_i name text
        obtain ⟨x?, double, read⟩ := bind_ok_iff.mp read
        cases x? with
        | none => cases read
        | some x =>
          obtain ⟨others?, others, read⟩ := bind_ok_iff.mp read
          obtain ⟨later, rfl, rfl⟩ := Option.map_eq_some_iff.mp (Except.ok.inj read)
          exact ⟨_, _, ⟨text, double?_eq_some_iff.mp double⟩, ih.mp others, rfl⟩
    · rintro ⟨⟨name, n⟩, later, ⟨text, counts⟩, others, rfl⟩
      obtain ⟨x, double, rfl⟩ := readsDouble_iff.mpr counts
      simp only [milestonesOf, text, double, ih.mpr others]
      rfl

/-- **Milestones are a fault only where a vast value is met.** -/
theorem milestonesOf_eq_error_iff :
    milestonesOf found = .error fault ↔ fault = .tooLarge ∧ VastAmong found := by
  induction found with
  | nil => exact iff_of_false nofun fun ⟨_, among⟩ => nomatch among
  | cons field rest ih =>
    obtain ⟨k, value⟩ := field
    constructor
    · intro failed
      unfold milestonesOf at failed
      split at failed
      · cases failed
      · rename_i name text
        rcases bind_error_iff.mp failed with first | ⟨x?, double, after⟩
        · obtain ⟨rfl, vast⟩ := double?_eq_error_iff.mp first
          exact ⟨rfl, .here text vast⟩
        · cases x? with
          | none => cases after
          | some x =>
            rcases bind_error_iff.mp after with others | ⟨_, -, done⟩
            · obtain ⟨rfl, among⟩ := ih.mp others
              exact ⟨rfl, .later ⟨⟨name, text⟩, x, double⟩ among⟩
            · cases done
    · rintro ⟨rfl, among⟩
      cases among with
      | here text vast =>
        simp only [milestonesOf, text, double?_eq_error_iff.mpr ⟨rfl, vast⟩]
        rfl
      | later usable among =>
        obtain ⟨⟨name, text⟩, x, double⟩ := usable
        simp only [milestonesOf, text, double, ih.mpr ⟨rfl, among⟩]
        rfl

theorem usable_of_posted {written : List (Text × Number)} (each : Posted Counts found written) :
    ∀ field ∈ found, Usable field := by
  induction each with
  | nil => exact List.forall_mem_nil _
  | cons first _ ih =>
    obtain ⟨x, double, -⟩ := readsDouble_iff.mpr first.2
    exact List.forall_mem_cons.mpr ⟨⟨⟨_, first.1⟩, x, double⟩, ih⟩

/-- One entry that cannot be used is enough for the milestones to be of no use. -/
theorem milestonesOf_eq_none_iff :
    milestonesOf found = .ok none ↔ ¬ VastAmong found ∧ ∃ field ∈ found, ¬ Usable field := by
  constructor
  · intro none
    refine ⟨fun among => ?_, ?_⟩
    · have failed := milestonesOf_eq_error_iff.mpr ⟨rfl, among⟩
      cases none.symm.trans failed
    · by_contra all
      push Not at all
      obtain ⟨written, read, -⟩ := milestonesOf_usable all
      cases none.symm.trans read
  · rintro ⟨near, field, mem, useless⟩
    cases read : milestonesOf found with
    | error fault => exact absurd (milestonesOf_eq_error_iff.mp read).2 near
    | ok written? =>
      cases written? with
      | none => rfl
      | some written =>
        have each := milestonesOf_eq_some_iff.mp read
        exact absurd (usable_of_posted each field mem) useless

theorem milestonesAt_eq_iff {default : Table Number} {result : Except Fault (Table Number)} :
    milestonesAt fields default = result ↔
      GivesMilestones default (fields.named? "progress_milestones") result := by
  unfold milestonesAt
  generalize fields.named? "progress_milestones" = value?
  constructor
  · rintro rfl
    cases value? with
    | none => exact .missing
    | some d =>
      rw [Option.map_some]
      split
      · rename_i found kind
        have kind := Option.some.inj kind
        cases read : milestonesOf found with
        | error fault =>
          obtain ⟨rfl, among⟩ := milestonesOf_eq_error_iff.mp read
          exact .vast kind among
        | ok written? =>
          cases written? with
          | none =>
            obtain ⟨near, bad⟩ := milestonesOf_eq_none_iff.mp read
            exact .useless kind near bad
          | some written => exact .used kind (milestonesOf_eq_some_iff.mp read)
      · rename_i other
        exact .other fun found kind => other found (congrArg some kind)
  · intro gives
    cases gives with
    | used kind each =>
      simp only [Option.map_some, kind, milestonesOf_eq_some_iff.mpr each]
      rfl
    | vast kind among =>
      simp only [Option.map_some, kind, milestonesOf_eq_error_iff.mpr ⟨rfl, among⟩]
      rfl
    | useless kind near bad =>
      simp only [Option.map_some, kind, milestonesOf_eq_none_iff.mpr ⟨near, bad⟩]
      rfl
    | other other =>
      rw [Option.map_some]
      split
      · rename_i kind
        exact absurd (Option.some.inj kind) (other _)
      · rfl
    | missing => rfl

/-! ## 4. Settings -/

/-- **A setting**: its key, its place in a configuration, how it is read, and what the value at its
key, or none, comes to. -/
structure Setting (δ : Type) where
  Value : Type
  key : Text
  get : Config → Value
  read : Fields δ → Except Fault Value
  /-- What the value at the key comes to: what is given by it, or the fault that it is. -/
  Gives : Option δ → Except Fault Value → Prop
  read_eq_iff : ∀ {fields : Fields δ} {result : Except Fault Value},
    read fields = result ↔ Gives (fields.named? key) result

namespace Setting

section

variable {δ : Type} {fields others : Fields δ} {fault met : Fault} {settings : List (Setting δ)}

/-- **A setting is read from the value at its key.** -/
theorem read_congr {setting : Setting δ}
    (same : others.named? setting.key = fields.named? setting.key) :
    setting.read others = setting.read fields := by
  rw [setting.read_eq_iff, same]
  exact setting.read_eq_iff.mp rfl

/-- **The first of some settings that is a fault.** -/
inductive FirstFault (fields : Fields δ) (fault : Fault) : List (Setting δ) → Prop
  | here {setting : Setting δ} {rest : List (Setting δ)}
      (fails : setting.Gives (fields.named? setting.key) (.error fault)) :
      FirstFault fields fault (setting :: rest)
  | later {setting : Setting δ} {a : setting.Value} {rest : List (Setting δ)}
      (gives : setting.Gives (fields.named? setting.key) (.ok a))
      (behind : FirstFault fields fault rest) : FirstFault fields fault (setting :: rest)

theorem FirstFault.exists_mem (first : FirstFault fields fault settings) :
    ∃ setting ∈ settings, setting.Gives (fields.named? setting.key) (.error fault) := by
  induction first with
  | here fails => exact ⟨_, List.mem_cons_self .., fails⟩
  | later _ _ ih =>
    obtain ⟨setting, mem, fails⟩ := ih
    exact ⟨setting, List.mem_cons_of_mem _ mem, fails⟩

/-- Only the values at the keys of the settings count. -/
theorem FirstFault.congr (first : FirstFault fields fault settings)
    (same : ∀ setting ∈ settings, others.named? setting.key = fields.named? setting.key) :
    FirstFault others fault settings := by
  induction first with
  | here fails =>
    rw [← same _ (List.mem_cons_self ..)] at fails
    exact .here fails
  | later gives _ ih =>
    rw [← same _ (List.mem_cons_self ..)] at gives
    exact .later gives (ih fun setting mem => same setting (List.mem_cons_of_mem _ mem))

/-- There is only one first. -/
theorem FirstFault.unique (first : FirstFault fields fault settings)
    (other : FirstFault fields met settings) : fault = met := by
  induction first with
  | @here setting _ fails =>
    have fails := setting.read_eq_iff.mpr fails
    cases other with
    | here fails' => exact Except.error.inj (fails.symm.trans (setting.read_eq_iff.mpr fails'))
    | later gives _ => cases fails.symm.trans (setting.read_eq_iff.mpr gives)
  | @later setting _ _ gives _ ih =>
    have gives := setting.read_eq_iff.mpr gives
    cases other with
    | here fails => cases gives.symm.trans (setting.read_eq_iff.mpr fails)
    | later _ behind => exact ih behind

/-- What is read setting by setting fails with the first that is a fault. -/
theorem FirstFault.of_bind {α : Type} {setting : Setting δ}
    {next : setting.Value → Except Fault α} (failed : setting.read fields >>= next = .error fault)
    (behind : ∀ a, next a = .error fault → FirstFault fields fault settings) :
    FirstFault fields fault (setting :: settings) := by
  rcases bind_error_iff.mp failed with here | ⟨a, given, later⟩
  · exact .here (setting.read_eq_iff.mp here)
  · exact .later (setting.read_eq_iff.mp given) (behind a later)

end

/-- A setting that is a text. -/
def text (logs : Bool) (key : Text) (get : Config → Text) : Setting δ where
  Value := Text
  key := key
  get := get
  read fields := textAt logs fields key (get {})
  Gives := GivesText logs (get {})
  read_eq_iff := textAt_eq_iff

/-- A setting that is a number. -/
def number (logs : Bool) (key : Text) (get : Config → Number) (near : ¬ (get {}).Beyond) :
    Setting δ where
  Value := Number
  key := key
  get := get
  read fields := doubleAt logs fields key (get {})
  Gives := GivesNumber logs (get {})
  read_eq_iff := doubleAt_eq_iff near

/-- The milestones. -/
def milestones : Setting δ where
  Value := Table Number
  key := "progress_milestones"
  get := Config.milestones
  read fields := milestonesAt fields ({} : Config).milestones
  Gives := GivesMilestones ({} : Config).milestones
  read_eq_iff := milestonesAt_eq_iff

/-- The seed. -/
def seed (logs : Bool) : Setting δ where
  Value := Option Int
  key := "seed"
  get := Config.seed
  read fields := seedAt logs fields
  Gives := GivesSeed logs
  read_eq_iff := seedAt_eq_iff

end Setting

/-- **The settings of a story**, in the order in which they are read. -/
def settings (δ : Type) [Layered δ] (logs : Bool) : List (Setting δ) :=
  [.milestones, .seed logs, .text logs "ending_prefix" endingPrefix,
    .text logs "good_ending" goodEnding, .text logs "neutral_ending" neutralEnding,
    .text logs "bad_ending" badEnding, .text logs "death_ending" deathEnding,
    .number logs "good_threshold" goodThreshold (Number.not_beyond_of_small (by decide)),
    .number logs "neutral_threshold" neutralThreshold (Number.not_beyond_of_small (by decide)),
    .number logs "risk_threshold" riskThreshold (Number.not_beyond_of_small (by decide)),
    .number logs "death_chance_per_risk" deathChancePerRisk (Number.not_beyond_double _),
    .number logs "death_chance_cap" deathChanceCap (Number.not_beyond_double _)]

/-! ## 5. Mappings -/

/-- **A mapping is read setting by setting.** -/
theorem ofFields_eq_ok_iff {config : Config} :
    ofFields logs fields = .ok config ↔
      ∀ setting ∈ settings δ logs, setting.read fields = .ok (setting.get config) := by
  simp only [settings, List.forall_mem_cons, Setting.milestones, Setting.text, Setting.number,
    Setting.seed]
  unfold ofFields
  simp only [bind_ok_iff]
  constructor
  · rintro ⟨milestones, readMilestones, seed, readSeed, start, readStart, good, readGood,
      neutral, readNeutral, bad, readBad, death, readDeath, goodLeast, readGoodLeast,
      neutralLeast, readNeutralLeast, riskLeast, readRiskLeast, chance, readChance, cap, readCap,
      done⟩
    obtain rfl := Except.ok.inj done
    exact ⟨readMilestones, readSeed, readStart, readGood, readNeutral, readBad, readDeath,
      readGoodLeast, readNeutralLeast, readRiskLeast, readChance, readCap, List.forall_mem_nil _⟩
  · rintro ⟨readMilestones, readSeed, readStart, readGood, readNeutral, readBad, readDeath,
      readGoodLeast, readNeutralLeast, readRiskLeast, readChance, readCap, -⟩
    exact ⟨_, readMilestones, _, readSeed, _, readStart, _, readGood, _, readNeutral, _, readBad, _,
      readDeath, _, readGoodLeast, _, readNeutralLeast, _, readRiskLeast, _, readChance, _,
      readCap, rfl⟩

theorem firstFault_of_ofFields (failed : ofFields logs fields = .error fault) :
    Setting.FirstFault fields fault (settings δ logs) := by
  unfold ofFields at failed
  unfold settings
  refine .of_bind failed fun milestones failed => .of_bind failed fun seed failed => ?_
  refine .of_bind failed fun start failed => .of_bind failed fun good failed => ?_
  refine .of_bind failed fun neutral failed => .of_bind failed fun bad failed => ?_
  refine .of_bind failed fun death failed => .of_bind failed fun goodLeast failed => ?_
  refine .of_bind failed fun neutralLeast failed => .of_bind failed fun riskLeast failed => ?_
  exact .of_bind failed fun chance failed => .of_bind failed fun cap done => by cases done

/-- **The reading of a mapping fails with the first setting that is a fault.** -/
theorem ofFields_eq_error_iff :
    ofFields logs fields = .error fault ↔ Setting.FirstFault fields fault (settings δ logs) := by
  refine ⟨firstFault_of_ofFields, fun first => ?_⟩
  cases read : ofFields logs fields with
  | ok config =>
    obtain ⟨setting, known, fails⟩ := first.exists_mem
    have given := ofFields_eq_ok_iff.mp read setting known
    cases given.symm.trans (setting.read_eq_iff.mpr fails)
  | error met => rw [first.unique (firstFault_of_ofFields read)]

/-- **How settings are read**; `logs` is whether warnings are written. -/
structure ReadsSettings (δ : Type) [Layered δ] (logs : Bool) : Prop where
  /-- A document that is a mapping is read as its entries are. -/
  document : ∀ (d : δ) (fields : Fields δ), layer d = .map fields →
    ofDocument logs d = ofFields logs fields
  /-- Reading fails with the first setting that is a fault … -/
  fails : ∀ (fields : Fields δ) (fault : Fault), ofFields logs fields = .error fault ↔
    Setting.FirstFault fields fault (settings δ logs)
  /-- … of which there are two: a number that is too large and, if warnings are written, a value
  that is of no use and nested too deeply. -/
  faults : ∀ (fields : Fields δ) (fault : Fault), ofFields logs fields = .error fault →
    fault = .tooLarge ∨ fault = .tooDeep ∧ logs = true
  /-- In every other case it gives a configuration. -/
  reads : ∀ fields : Fields δ, (∀ setting ∈ settings δ logs, ∀ fault,
    ¬ setting.Gives (fields.named? setting.key) (.error fault)) →
      ∃ config, ofFields logs fields = .ok config
  /-- Every setting takes what is given by the value at its own key: the value, if it can be used,
  or else its own default. -/
  gives : ∀ (fields : Fields δ) (config : Config), ofFields logs fields = .ok config ↔
    ∀ setting ∈ settings δ logs,
      setting.Gives (fields.named? setting.key) (.ok (setting.get config))
  /-- So a setting is the same in all mappings with the same value at its key, whatever else they
  hold. -/
  alone : ∀ (fields others : Fields δ) (config other : Config),
    ofFields logs fields = .ok config → ofFields logs others = .ok other →
      ∀ setting ∈ settings δ logs, others.named? setting.key = fields.named? setting.key →
        setting.get other = setting.get config
  /-- What stands at other keys does not count. -/
  ignored : ∀ fields others : Fields δ,
    (∀ setting ∈ settings δ logs, others.named? setting.key = fields.named? setting.key) →
      ofFields logs others = ofFields logs fields
  /-- No name of an ending is empty, nor is what their names start with. -/
  nonempty : ∀ (fields : Fields δ) (config : Config), ofFields logs fields = .ok config →
    ∀ text ∈ [config.endingPrefix, config.goodEnding, config.neutralEnding, config.badEnding,
      config.deathEnding], text ≠ []

theorem GivesText.ne_nil {default t : Text} {value? : Option δ}
    (gives : GivesText logs default value? (.ok t)) (nonempty : default ≠ []) : t ≠ [] := by
  cases gives with
  | used _ some => exact some
  | useless _ falls =>
    cases falls
    exact nonempty
  | missing => exact nonempty

theorem Falls.of_error {α : Type} {default : α} (falls : Falls logs default d (.error fault)) :
    fault = .tooLarge ∨ fault = .tooDeep ∧ logs = true := by
  cases falls with
  | untold untold => exact .inr ⟨rfl, untold.1⟩

/-- The faults that settings can be. -/
theorem fault_of_gives : ∀ setting ∈ settings δ logs, ∀ value?,
    setting.Gives value? (.error fault) → fault = .tooLarge ∨ fault = .tooDeep ∧ logs = true := by
  have texts (default : Text) (value? : Option δ)
      (gives : GivesText logs default value? (.error fault)) :
      fault = .tooLarge ∨ fault = .tooDeep ∧ logs = true := by
    cases gives with
    | useless _ falls => exact falls.of_error
  have numbers (default : Number) (value? : Option δ)
      (gives : GivesNumber logs default value? (.error fault)) :
      fault = .tooLarge ∨ fault = .tooDeep ∧ logs = true := by
    cases gives with
    | vast => exact .inl rfl
    | useless _ _ falls => exact falls.of_error
  simp only [settings, List.forall_mem_cons]
  refine ⟨fun value? gives => ?milestones, fun value? gives => ?seed, texts _, texts _, texts _,
    texts _, texts _, numbers _, numbers _, numbers _, numbers _, numbers _, List.forall_mem_nil _⟩
  case milestones =>
    cases gives with
    | vast => exact .inl rfl
  case seed =>
    cases gives with
    | useless _ _ falls => exact falls.of_error

/-- **Settings are read key by key**, unless an integer beyond the doubles stands where a number
should, or it would have to be warned of a value that is nested too deeply. -/
theorem readsSettings (δ : Type) [Layered δ] (logs : Bool) : ReadsSettings δ logs where
  document d fields kind := by rw [ofDocument, kind]
  fails fields fault := ofFields_eq_error_iff
  faults fields fault failed := by
    obtain ⟨setting, known, fails⟩ := (ofFields_eq_error_iff.mp failed).exists_mem
    exact fault_of_gives setting known _ fails
  reads fields free := by
    cases read : ofFields logs fields with
    | ok config => exact ⟨config, rfl⟩
    | error fault =>
      obtain ⟨setting, known, fails⟩ := (ofFields_eq_error_iff.mp read).exists_mem
      exact absurd fails (free setting known fault)
  gives fields config := by simp only [ofFields_eq_ok_iff, Setting.read_eq_iff]
  alone fields others config other read readOther setting known same := by
    have here := ofFields_eq_ok_iff.mp read setting known
    have there := ofFields_eq_ok_iff.mp readOther setting known
    rw [Setting.read_congr same] at there
    exact Except.ok.inj (there.symm.trans here)
  ignored fields others same := by
    cases read : ofFields logs fields with
    | ok config =>
      refine ofFields_eq_ok_iff.mpr fun setting known => ?_
      rw [Setting.read_congr (same setting known)]
      exact ofFields_eq_ok_iff.mp read setting known
    | error fault =>
      exact ofFields_eq_error_iff.mpr ((ofFields_eq_error_iff.mp read).congr same)
  nonempty fields config read := by
    have used (key : Text) (get : Config → Text) (nonempty : get {} ≠ [])
        (read : (Setting.text logs key get : Setting δ).read fields = .ok (get config)) :
        get config ≠ [] :=
      ((Setting.text logs key get).read_eq_iff.mp read).ne_nil nonempty
    have texts := ofFields_eq_ok_iff.mp read
    simp only [settings, List.forall_mem_cons] at texts
    obtain ⟨-, -, start, good, neutral, bad, death, -⟩ := texts
    simp only [List.forall_mem_cons]
    exact ⟨used _ endingPrefix (by decide) start, used _ goodEnding (by decide) good,
      used _ neutralEnding (by decide) neutral, used _ badEnding (by decide) bad,
      used _ deathEnding (by decide) death, List.forall_mem_nil _⟩

/-- **A threshold that is nested too deeply disturbs all settings**, too, where warnings are
written. -/
theorem unread_of_nests {d : Datum} (deep : d.Nests shownLimit) (short : ¬ d.Overlong) :
    ofDocument true (Datum.map [(.text "good_threshold", d)]) = .error .tooDeep := by
  have other (a : Atom) : layer d ≠ .atom a := by
    intro kind
    cases d with
    | atom b => exact Datum.not_nests_atom deep
    | list items => cases kind
    | map fields => cases kind
  have near : ¬ Vast d := fun ⟨_, kind, _⟩ => other _ kind
  have none (n : Number) : ¬ Counts d n := by
    intro counts
    cases counts with
    | truth kind | double kind | integer kind | text kind | bytes kind => exact other _ kind
  refine ofFields_eq_error_iff.mpr ?_
  refine .later .missing (.later .missing (.later .missing (.later .missing (.later .missing ?_))))
  refine .later .missing (.later .missing (.here (.useless near none (.untold ⟨rfl, ?_⟩))))
  exact Datum.shown_of_nests deep short

/-- Settings with a threshold beyond the doubles. -/
def vastSettings : Datum :=
  .map [(.text "ending_prefix", .text "fin_"), (.text "good_threshold", .int (Nat.pow 10 400))]

/-- **A value that disturbs all settings**: the threshold is no double, and nothing is read. -/
theorem unread_vastSettings :
    ∃ fields, layer vastSettings = .map fields ∧ ∀ logs, ofFields logs fields = .error .tooLarge ∧
      ∀ config, ofDocument logs vastSettings ≠ .ok config := by
  have failed (logs : Bool) : ofDocument logs vastSettings = .error .tooLarge := by
    cases logs <;> decide +kernel
  refine ⟨_, rfl, fun logs => ⟨failed logs, fun config read => ?_⟩⟩
  cases (failed logs).symm.trans read

end Config
end Gamebook

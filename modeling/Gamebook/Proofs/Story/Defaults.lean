/-
# What variables start with

A variable is declared by an entry of a data document.  On the way to the store its default value is
written down as text, and the text is read again by another grammar.  This file settles that the
store nevertheless holds what the entries say (`initialised_of_liesIn`): truth values stay truth
values, integers integers, and doubles doubles.

* **Default values.**  `defaultOf` says of each kind of default value what it is, without a text in
  between, and `map_content` that the text makes no difference.  That numbers survive is
  `Number.ofText?_shown`.
* **Repeated names.**  A name stands where it is declared first, and has what is declared last for
  it (`Declared`).  Both are facts about tables.

An integer with too many digits to be shown is no default value: its document is not loaded.
-/
import Gamebook.Proofs.Number.Literals
import Gamebook.Proofs.Session.Stores
import Gamebook.Proofs.Story.Division

namespace Gamebook

open Layered

/-! ## 1. Texts as first values -/

namespace Value

variable {t : Text} {n : Number}

/-- What a text is as a first value: a truth value if it is one of two words, else the number that
it denotes, and zero if it denotes none. -/
def ofText (t : Text) : Value :=
  if t = "true" then .bool true
  else if t = "false" then .bool false
  else .number ((Number.ofText? t).getD .zero)

theorem ofText_bool (b : Bool) : ofText (if b then "true" else "false") = .bool b := by
  cases b <;> rfl

/-- The words of the truth values denote no number, so no numeral is taken for one of them. -/
theorem ofText_of_literal (denotes : Number.ofText? t = some n) : ofText t = .number n := by
  have notTrue : t ≠ "true" := by
    rintro rfl
    have word : Number.ofText? "true" = none := by decide +kernel
    rw [word] at denotes
    contradiction
  have notFalse : t ≠ "false" := by
    rintro rfl
    have word : Number.ofText? "false" = none := by decide +kernel
    rw [word] at denotes
    contradiction
  rw [ofText, if_neg notTrue, if_neg notFalse, denotes]
  rfl

/-- **Numbers survive**, except the double that is no number. -/
theorem ofText_shown (short : n.isOverlong = false) :
    ofText (Text.ofString n.shown) = if n.isNaN then zero else .number n := by
  cases number : n.isNaN with
  | false => exact ofText_of_literal (Number.ofText?_shown short number)
  | true =>
    obtain rfl : n = .double .nan := by
      cases n with
      | int n => cases number
      | double x =>
        cases x with
        | nan => rfl
        | finite negative units fits | infinite negative => cases number
    decide +kernel

end Value

/-! ## 2. Default values -/

section

variable {δ : Type} [Layered δ] {entry : δ}

/-- **What a part of a document is as a default value**, kind by kind.  What is no value of a
variable counts as the text that it is as the content of a field. -/
def defaultOf (d : δ) : Except Fault Value :=
  match layer d with
  | .atom .null => .ok .zero
  | .atom (.bool b) => .ok (.bool b)
  | .atom (.number n) =>
    if n.isOverlong then .error .tooManyDigits
    else .ok (if n.isNaN then .zero else .number n)
  | .atom (.text t) => .ok (.ofText t)
  | _ => (content d).map .ofText

/-- **That a default value is written down as text makes no difference.** -/
theorem map_content (d : δ) : (content d).map Value.ofText = defaultOf d := by
  unfold defaultOf
  cases kind : layer d with
  | list items | map fields | other => rfl
  | atom a =>
    have plain : content d = a.content := by rw [content, kind]
    cases a with
    | date date | moment moment | bytes bytes => rfl
    | null =>
      rw [plain]
      rfl
    | bool b =>
      rw [plain]
      exact congrArg Except.ok (Value.ofText_bool b)
    | text t =>
      rw [plain]
      rfl
    | number n =>
      rw [plain]
      simp only [Atom.content, Atom.plain, Atom.shown]
      cases overlong : n.isOverlong with
      | true => rfl
      | false => exact congrArg Except.ok (Value.ofText_shown overlong)

/-- **What an entry declares**: a name, and what it starts with; zero if nothing is said. -/
def declaration (entry : δ) : Except Fault (Text × Value) := do
  let name ← (fieldsOf entry).content "var_name"
  let value ← ((fieldsOf entry).named? "default_value").elim (.ok .zero) defaultOf
  return (name, value)

/-- **An entry is read as what it declares.** -/
theorem declaration_of_variableDef {defined : VariableDef}
    (read : (fieldsOf entry).variableDef = .ok defined) :
    declaration entry = .ok (defined.name, defined.value) := by
  unfold Fields.variableDef at read
  simp only [bind_ok_iff] at read
  obtain ⟨name, named, initial, given, description, -, done⟩ := read
  obtain rfl := Except.ok.inj done
  have value : ((fieldsOf entry).named? "default_value").elim (.ok .zero) defaultOf =
      .ok (Value.ofText initial) := by
    unfold Fields.contentOr at given
    cases found : (fieldsOf entry).named? "default_value" with
    | none =>
      rw [found] at given
      rw [← Except.ok.inj given]
      rfl
    | some d =>
      rw [found] at given
      have given : content d = .ok initial := given
      rw [Option.elim_some, ← map_content, given]
      rfl
  rw [declaration, named, value]
  rfl

/-! ## 3. Stores -/

/-- **A store that holds what entries declare**: each name stands where it is declared first, and
has what is declared last for it. -/
def Declared (entries : List δ) (store : Store) : Prop :=
  ∃ declared : List (Text × Value), entries.mapM declaration = .ok declared ∧
    store.names = (declared.map Prod.fst).eraseDups ∧
      ∀ name, store.find? name = declared.reverse.lookup name

theorem declared_ofDefs {documents : List δ} {defs : List VariableDef}
    (gathered : Gathered "variables" (fun entry defined => entry.variableDef = .ok defined)
      documents defs) :
    Declared (documents.flatMap (entriesOf "variables")) (Store.ofDefs defs) := by
  have read : (documents.flatMap (entriesOf "variables")).mapM declaration =
      .ok (defs.map fun d => (d.name, d.value)) := by
    rw [mapM_ok_iff, List.forall₂_map_right_iff]
    exact gathered.imp fun entry defined read => declaration_of_variableDef read
  exact ⟨_, read, Table.names_ofList _, Table.find?_ofList _⟩

end

section

variable {α δ : Type} [Layered δ] {decoder : Decoder α δ} {tree : FileTree α} {folder : Path}
  {bundle : Bundle δ}

/-- **What the variables of the data documents of a folder come to.** -/
structure Initialised (logs : Bool) (decoder : Decoder α δ) (tree : FileTree α) (folder : Path)
    (bundle : Bundle δ) : Prop where
  /-- Well-formed documents are loaded, if the manifest is. -/
  loads : (∀ d ∈ bundle.contents, WellFormed d) → ∀ info, bundle.manifest logs folder = .ok info →
    ∃ story, Story.load logs decoder tree folder = .ok (story, info)
  /-- A session of what is loaded starts with what the documents declare, whatever it was. -/
  starts : ∀ story info, Story.load logs decoder tree folder = .ok (story, info) →
    ∀ (config : Config) (s : Session),
      Declared (bundle.contents.flatMap (entriesOf "variables"))
        (Command.start.run ⟨story, config⟩ s).session.store

/-- **Declared defaults reach the store unchanged.** -/
theorem initialised_of_liesIn (logs : Bool) (lies : bundle.LiesIn decoder tree folder) :
    Initialised logs decoder tree folder bundle where
  loads wellFormed _ read := exists_load lies wellFormed read
  starts := by
    intro story info loaded config s
    obtain ⟨-, -, gathers⟩ := (Story.load_ok_iff lies).mp loaded
    rw [Session.store_run]
    exact declared_ofDefs gathers.variableDefs

end

/-- An entry that declares a variable, with a default value or without one. -/
def declaring (name : Text) (default? : Option Datum) : Datum :=
  .map ((.text "var_name", .text name) :: (default?.map fun d => (.text "default_value", d)).toList)

/-- A document with three variables. -/
def camp : Datum := .map [(.text "variables", .list
  [declaring "coins" (some (.int 3)), declaring "lamp" (some (.atom (.bool true))),
   declaring "depth" (some (.atom (.number (.double (.infinite true)))))])]

/-- A document that declares one of them anew, and two more. -/
def cave : Datum := .map [(.text "variables", .list
  [declaring "echo" none, declaring "coins" (some (.text " 12 ")),
   declaring "dust" (some (.atom (.number (.double .nan))))])]

theorem wellFormed_camp : WellFormed camp := wellFormed_of_all rfl (by decide +kernel)

theorem wellFormed_cave : WellFormed cave := wellFormed_of_all rfl (by decide +kernel)

/-- The coins stand first and have what the second document says. -/
theorem initialised_in_cave :
    let documents := [("a.yaml", camp), ("b.yaml", cave)]
    (Tale.bundle none documents).LiesIn .ok (Tale.tree none documents) Tale.folder ∧
      ∃ story info, Story.load true .ok (Tale.tree none documents) Tale.folder = .ok (story, info) ∧
        ∃ store : Store, (Command.start.run ⟨story, {}⟩ default).session.store = store ∧
          store.names = ["coins", "lamp", "depth", "echo", "dust"] ∧
            store.find? "coins" = some (.number (.int 12)) ∧
              store.find? "lamp" = some (.bool true) ∧
                store.find? "depth" = some (.number (.double (.infinite true))) ∧
                  store.find? "echo" = some .zero ∧ store.find? "dust" = some .zero := by
  intro documents
  have lies : (Tale.bundle none documents).LiesIn .ok (Tale.tree none documents) Tale.folder :=
    Tale.liesIn rfl (fun _ => rfl) nofun rfl (by decide +kernel) (by decide +kernel)
      (by decide +kernel) (List.forall_mem_cons.mpr ⟨rfl, List.forall_mem_singleton.mpr rfl⟩)
  have initialised := initialised_of_liesIn true lies
  have wellFormed : ∀ d ∈ (Tale.bundle none documents).contents, WellFormed d :=
    List.forall_mem_cons.mpr ⟨wellFormed_camp, List.forall_mem_singleton.mpr wellFormed_cave⟩
  obtain ⟨story, loaded⟩ := initialised.loads wellFormed _ rfl
  obtain ⟨declared, read, names, find⟩ := initialised.starts story _ loaded {} default
  have known : (entriesOf "variables" camp ++ entriesOf "variables" cave).mapM declaration =
      .ok [("coins", .number (.int 3)), ("lamp", .bool true),
        ("depth", .number (.double (.infinite true))), ("echo", .zero),
        ("coins", .number (.int 12)), ("dust", .zero)] := by
    decide +kernel
  obtain rfl := Except.ok.inj (known.symm.trans read)
  refine ⟨lies, story, _, loaded, _, rfl, names.trans (by decide +kernel), ?_⟩
  simp only [find]
  decide +kernel

end Gamebook

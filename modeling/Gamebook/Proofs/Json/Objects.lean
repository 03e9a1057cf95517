/-
# Objects in JSON

What is written is read again: the writer gives a file in pieces, and this file settles that the
pieces of texts, numbers and objects are decoded as what they were made of (`read_of_writes`).

* **Texts.**  An escaped character is read as the character (`ReadsText.escapedChar`): by a letter,
  by its code, or as it stands.
* **Pieces.**  `Writes` says that some pieces were written without a fault.  `Spell` says that what
  is written is read as a datum up to where it ends, whatever comes behind it, if only no numeral
  goes on there (`Parted`).
* **Objects.**  One lemma for a member with the blank, the colon and the white space around it
  (`member_of_writes`), one for the last member and one for the others, and an induction on the list
  of members (`readsMembers_of_writes`).
-/
import Gamebook.Proofs.Json.Numerals

namespace Gamebook.Json

open Text

variable {start depth : Nat} {cs rest tail : List Char} {t : Text}

/-! ## 1. Texts -/

/-- A text is read up to its closing quote, and `rest` is left. -/
def ReadsText (start : Nat) (cs : List Char) (t : Text) (rest : List Char) : Prop :=
  ∃ shorter, textBody start cs = .ok (t, ⟨rest, shorter⟩)

theorem readsText_quote (start : Nat) (rest : List Char) :
    ReadsText start ('"' :: rest) [] rest := by
  refine ⟨Nat.lt_succ_self _, ?_⟩
  rw [textBody]

/-- An escape of one letter. -/
theorem ReadsText.escape (h : ReadsText start tail t rest) {letter c : Char}
    (escape : escaped? letter = some c) :
    ReadsText start ('\\' :: letter :: tail) (.char c :: t) rest := by
  obtain ⟨shorter, read⟩ := h
  have other : letter ≠ 'u' := by
    rintro rfl
    contradiction
  refine ⟨by simp only [List.length_cons]; omega, ?_⟩
  rw [textBody]
  · simp only [escape, read]
    rfl
  · exact other

/-- A character that stands for itself. -/
theorem ReadsText.plain (h : ReadsText start tail t rest) {c : Char} (quote : c ≠ '"')
    (backslash : c ≠ '\\') (control : ¬ c.toNat < 0x20) :
    ReadsText start (c :: tail) (.char c :: t) rest := by
  obtain ⟨shorter, read⟩ := h
  refine ⟨by simp only [List.length_cons]; omega, ?_⟩
  rw [textBody]
  · simp only [control, read]
    rfl
  · exact quote
  · exact fun same _ => backslash same
  · exact fun _ same _ => backslash same
  · exact fun _ _ same _ => backslash same

/-- A control character is read by its code. -/
theorem codeEscape_control {n : Nat} (control : n < 0x20) (c : Char) (tail : List Char) :
    codeEscape (hexDigits 4 n ++ c :: tail) = .ok (.char (Char.ofNat n), c :: tail) := by
  have digits : ∀ n < 0x20, hexDigits 4 n = ['0', '0', hexDigit (n / 16), hexDigit (n % 16)] ∧
      hexNumber? ['0', '0', hexDigit (n / 16), hexDigit (n % 16)] = some n ∧
      letterOfCode n = .char (Char.ofNat n) := by
    decide
  obtain ⟨digits, number, letter⟩ := digits n control
  have unit : codeUnit (hexDigits 4 n ++ c :: tail) = .ok (n, c :: tail) := by
    simp only [digits, List.cons_append, List.nil_append, codeUnit, number]
  have single : ¬ 0xD800 ≤ n := by omega
  unfold codeEscape
  rw [unit]
  simp only [single, false_and, if_false, letter]
  split <;> rfl

/-- An escape of a control character by its code; a text does not end behind it. -/
theorem ReadsText.code (h : ReadsText start tail t rest) {n : Nat} (control : n < 0x20) :
    ReadsText start ('\\' :: 'u' :: (hexDigits 4 n ++ tail)) (.char (Char.ofNat n) :: t) rest := by
  obtain ⟨shorter, read⟩ := h
  cases tail with
  | nil => exact absurd shorter (Nat.not_lt_zero _)
  | cons c tail =>
    have escape := codeEscape_control control c tail
    have size : rest.length < (c :: tail).length := shorter
    refine ⟨by simp only [List.length_cons, List.length_append] at size ⊢; omega, ?_⟩
    rw [textBody]
    split
    · rename_i failure failed
      rw [escape] at failed
      contradiction
    · rename_i found after read'
      rw [escape] at read'
      cases read'
      rw [read]
      rfl

/-- A character is read as it is escaped. -/
theorem ReadsText.escapedChar (h : ReadsText start tail t rest) (c : Char) :
    ReadsText start (Json.escapedChar c ++ tail) (.char c :: t) rest := by
  have named : ∀ n, c.toNat = n → c = Char.ofNat n := by
    rintro n rfl
    exact (Char.ofNat_toNat c).symm
  unfold Json.escapedChar
  split
  · rename_i same
    subst same
    exact h.escape rfl
  · rename_i quote
    split
    · rename_i same
      subst same
      exact h.escape rfl
    · rename_i backslash
      split
      · rename_i same
        subst same
        exact h.escape rfl
      · split
        · rename_i same
          subst same
          exact h.escape rfl
        · split
          · rename_i same
            subst same
            exact h.escape rfl
          · split
            · rename_i code
              rw [named 8 code]
              exact h.escape rfl
            · split
              · rename_i code
                rw [named 12 code]
                exact h.escape rfl
              · split
                · rename_i control
                  have read := h.code control
                  rwa [Char.ofNat_toNat] at read
                · rename_i control
                  exact h.plain quote backslash control

/-- A text is read as it is rendered, up to its closing quote. -/
theorem readsText_escaped (start : Nat) (cs rest : List Char) :
    ReadsText start (cs.flatMap escapedChar ++ '"' :: rest) (ofChars cs) rest := by
  induction cs with
  | nil => exact readsText_quote start rest
  | cons c cs ih =>
    rw [List.flatMap_cons, List.append_assoc]
    exact ih.escapedChar c

theorem eq_ofChars_of_wholeChars? (whole : wholeChars? t = some cs) : t = ofChars cs := by
  induction t generalizing cs with
  | nil =>
    cases whole
    rfl
  | cons letter t ih =>
    unfold wholeChars? at whole
    rw [List.mapM_cons] at whole
    cases letter with
    | half offset => contradiction
    | char c =>
      obtain ⟨_, ⟨⟩, whole⟩ := Option.bind_eq_some_iff.mp whole
      obtain ⟨cs, more, ⟨⟩⟩ := Option.bind_eq_some_iff.mp whole
      rw [ih more]
      rfl

/-- **A text is read as it is rendered.** -/
theorem readsText_renderText {text : String} (written : renderText t = .ok text)
    (rest : List Char) :
    ∃ body, text.toList ++ rest = '"' :: body ∧ ∀ start, ReadsText start body t rest := by
  unfold renderText at written
  split at written
  · rename_i cs whole
    cases written
    refine ⟨cs.flatMap escapedChar ++ '"' :: rest, by simp, fun start => ?_⟩
    rw [eq_ofChars_of_wholeChars? whole]
    exact readsText_escaped start cs rest
  · contradiction

/-! ## 2. Pieces -/

/-- Some pieces are written as a whole, as this text. -/
def Writes (pieces : Pieces) (text : List Char) : Prop :=
  ∃ written, pieces.written = (written, none) ∧ written.toList = text

theorem writes_cons {piece : Except Fault String} {pieces : Pieces} {text : List Char}
    (h : Writes (piece :: pieces) text) :
    ∃ first more, piece = .ok first ∧ Writes pieces more ∧ text = first.toList ++ more := by
  obtain ⟨written, eq, rfl⟩ := h
  cases piece with
  | error fault => cases (Prod.mk.inj eq).2
  | ok first =>
    obtain ⟨rfl, none⟩ := Prod.mk.inj eq
    exact ⟨first, _, rfl, ⟨_, Prod.ext rfl none, rfl⟩, String.toList_append⟩

theorem writes_nil {text : List Char} (h : Writes [] text) : text = [] := by
  obtain ⟨written, eq, rfl⟩ := h
  rw [← (Prod.mk.inj eq).1]
  rfl

theorem writes_append {pieces others : Pieces} {text : List Char}
    (h : Writes (pieces ++ others) text) :
    ∃ first more, Writes pieces first ∧ Writes others more ∧ text = first ++ more := by
  induction pieces generalizing text with
  | nil => exact ⟨[], text, ⟨"", rfl, rfl⟩, h, rfl⟩
  | cons piece pieces ih =>
    obtain ⟨first, more, rfl, rest, rfl⟩ := writes_cons h
    obtain ⟨second, last, ⟨written, eq, rfl⟩, others, rfl⟩ := ih rest
    refine ⟨first.toList ++ written.toList, last, ⟨first ++ written, ?_, String.toList_append⟩,
      others, (List.append_assoc ..).symm⟩
    rw [Pieces.written, eq]

theorem writes_single {piece : Except Fault String} {text : List Char}
    (h : Writes [piece] text) : ∃ written, piece = .ok written ∧ text = written.toList := by
  obtain ⟨first, more, eq, rest, rfl⟩ := writes_cons h
  rw [writes_nil rest, List.append_nil]
  exact ⟨first, eq, rfl⟩

/-! ## 3. Values -/

/-- A value is read, and `rest` is left. -/
def ReadsValue (depth : Nat) (cs : List Char) (d : Datum) (rest : List Char) : Prop :=
  ∃ shorter, value depth cs = .ok (d, ⟨rest, shorter⟩)

/-- The members of an object are read, and `rest` is left. -/
def ReadsMembers (depth : Nat) (cs : List Char) (entries : List (Atom × Datum))
    (rest : List Char) : Prop :=
  ∃ shorter, members depth cs = .ok (entries, ⟨rest, shorter⟩)

/-- **Pieces spell a datum**: what they are written as is read as the datum, up to where it ends;
and it does not begin with white space. -/
def Spell (depth : Nat) (pieces : Pieces) (d : Datum) : Prop :=
  ∀ text, Writes pieces text → (∃ c tail, text = c :: tail ∧ isSpace c = false) ∧
    ∀ rest, Parted rest → ReadsValue depth (text ++ rest) d rest

theorem skip_of_head {c : Char} (solid : isSpace c = false) (tail : List Char) :
    skip (c :: tail) = c :: tail :=
  List.dropWhile_cons_of_neg (by simp [solid])

theorem skip_spaces {spaces : List Char} (blank : ∀ c ∈ spaces, isSpace c = true)
    (tail : List Char) : skip (spaces ++ tail) = skip tail :=
  List.dropWhile_append_of_pos blank

theorem isSpace_newLine (k : Nat) : ∀ c ∈ (newLine k).toList, isSpace c = true := by
  intro c mem
  rw [newLine, String.toList_ofList, List.mem_cons, List.mem_replicate] at mem
  rcases mem with rfl | ⟨-, rfl⟩ <;> rfl

theorem ReadsText.value {body : List Char} (depth : Nat)
    (h : ReadsText (body.length + 1) body t rest) :
    ReadsValue depth ('"' :: body) (.text t) rest := by
  obtain ⟨shorter, read⟩ := h
  refine ⟨Nat.lt_succ_of_lt shorter, ?_⟩
  rw [Json.value, read]
  rfl

theorem spell_text (depth : Nat) (t : Text) : Spell depth [renderText t] (.text t) := by
  intro text writes
  obtain ⟨written, eq, rfl⟩ := writes_single writes
  constructor
  · obtain ⟨body, split, -⟩ := readsText_renderText eq []
    rw [List.append_nil] at split
    exact ⟨'"', body, split, rfl⟩
  · intro rest _
    obtain ⟨body, split, read⟩ := readsText_renderText eq rest
    rw [split]
    exact (read _).value depth

/-- What no scalar begins with. -/
theorem head_of_scalar {c : Char} {a : Atom} (read : scalar (c :: tail) = .ok (a, rest)) :
    c ≠ '"' ∧ c ≠ '[' ∧ c ≠ '\x7b' ∧ isSpace c = false := by
  refine ⟨?_, ?_, ?_, ?_⟩
  · rintro rfl
    contradiction
  · rintro rfl
    contradiction
  · rintro rfl
    contradiction
  · by_contra space
    simp only [isSpace, Bool.not_eq_false, Bool.or_eq_true, beq_iff_eq] at space
    rcases space with ((rfl | rfl) | rfl) | rfl <;> contradiction

/-- A scalar that is no text is read as a value. -/
theorem readsValue_scalar {c : Char} {a : Atom} (read : scalar (c :: tail) = .ok (a, rest))
    (shorter : rest.length < (c :: tail).length) (depth : Nat) :
    ReadsValue depth (c :: tail) (.atom a) rest := by
  obtain ⟨quote, bracket, brace, -⟩ := head_of_scalar read
  refine ⟨shorter, ?_⟩
  rw [Json.value]
  · simp only [read, shorter, dif_pos]
  · exact fun _ same => quote (List.cons.inj same).1
  · exact fun _ same => bracket (List.cons.inj same).1
  · exact fun _ same => brace (List.cons.inj same).1

theorem spell_scalar {piece : Except Fault String} {a : Atom}
    (read : ∀ text, piece = .ok text → ∀ rest, Parted rest →
      scalar (text.toList ++ rest) = .ok (a, rest)) (depth : Nat) :
    Spell depth [piece] (.atom a) := by
  intro text writes
  obtain ⟨written, eq, rfl⟩ := writes_single writes
  have read := read written eq
  have alone := read [] nofun
  cases split : written.toList with
  | nil =>
    rw [split] at alone
    contradiction
  | cons c tail =>
    rw [split] at read alone
    rw [List.cons_append] at alone
    refine ⟨⟨c, tail, rfl, (head_of_scalar alone).2.2.2⟩, ?_⟩
    intro rest parted
    have longer : rest.length < (c :: tail ++ rest).length := by
      rw [List.length_append, List.length_cons]
      omega
    exact readsValue_scalar (read rest parted) longer depth

theorem spell_number (depth : Nat) (n : Number) :
    Spell depth [renderNumber n] (.atom (.number n)) :=
  spell_scalar (fun _ written _ parted => scalar_renderNumber written parted) depth

/-- The values that a save holds are read as they are rendered. -/
theorem spell_value (depth : Nat) (v : Value) :
    Spell depth [renderValue v] (.atom (.ofValue v)) := by
  cases v with
  | null =>
    refine spell_scalar (fun _ written rest _ => ?_) depth
    cases written
    exact scalar_word "null" (by simp [words, Atom.ofValue]) rest
  | bool b =>
    refine spell_scalar (fun _ written rest _ => ?_) depth
    cases written
    cases b with
    | false => exact scalar_word "false" (by simp [words, Atom.ofValue]) rest
    | true => exact scalar_word "true" (by simp [words, Atom.ofValue]) rest
  | number n => exact spell_number depth n
  | text t => exact spell_text depth t

/-! ## 4. Objects -/

/-- **A member at the front of a text**: a name, a colon and a value, behind which `tail` is
left. -/
inductive Member (depth : Nat) (name : Text) (d : Datum) (tail : List Char) : List Char → Prop
  | mk {body colon : List Char} (named : ReadsText (body.length + 1) body name (':' :: colon))
      (valued : ReadsValue depth (skip colon) d tail) : Member depth name d tail ('"' :: body)

theorem Member.length_lt {name : Text} {d : Datum} (h : Member depth name d tail cs) :
    tail.length < cs.length := by
  obtain ⟨⟨nameShorter, -⟩, shorter, -⟩ := h
  rename_i body colon
  have skipped := length_skip_le colon
  simp only [List.length_cons] at nameShorter ⊢
  omega

/-- The last member of an object. -/
theorem Member.last {name : Text} {d : Datum} (h : Member depth name d tail cs)
    (close : skip tail = '\x7d' :: rest) : ReadsMembers depth cs [(.text name, d)] rest := by
  have size : rest.length < cs.length := Nat.lt_trans (length_of_skip close) h.length_lt
  obtain ⟨⟨nameShorter, readName⟩, shorter, readValue⟩ := h
  refine ⟨size, ?_⟩
  rw [Json.members, readName]
  simp only [bind, Except.bind]
  split
  · rename_i found same
    obtain rfl := (List.cons.inj same).2
    rw [readValue]
    simp only
    split
    · rename_i last same
      obtain rfl := (List.cons.inj (close.symm.trans same)).2
      rfl
    · rename_i next same
      cases close.symm.trans same
    · rename_i last more
      exact absurd close (last rest)
  · rename_i other
    exact absurd rfl (other _)

/-- A member of an object with others behind it. -/
theorem Member.more {name : Text} {d : Datum} (h : Member depth name d tail cs)
    {next : List Char} (comma : skip tail = ',' :: next) {entries : List (Atom × Datum)}
    (others : ReadsMembers depth (skip next) entries rest) :
    ReadsMembers depth cs ((.text name, d) :: entries) rest := by
  obtain ⟨restShorter, readOthers⟩ := others
  have size : rest.length < cs.length := by
    have h1 := length_skip_le next
    have h2 := length_of_skip comma
    have h3 := h.length_lt
    omega
  obtain ⟨⟨nameShorter, readName⟩, shorter, readValue⟩ := h
  refine ⟨size, ?_⟩
  rw [Json.members, readName]
  simp only [bind, Except.bind]
  split
  · rename_i found same
    obtain rfl := (List.cons.inj same).2
    rw [readValue]
    simp only
    split
    · rename_i last same
      cases comma.symm.trans same
    · rename_i found same
      obtain rfl := (List.cons.inj (comma.symm.trans same)).2
      rw [readOthers]
      rfl
    · rename_i last more
      exact absurd comma (more next)
  · rename_i other
    exact absurd rfl (other _)

theorem parted_newLine (k : Nat) (tail : List Char) : Parted ((newLine k).toList ++ tail) := by
  intro c mem
  rw [newLine, String.toList_ofList] at mem
  obtain rfl : '\n' = c := Option.some.inj mem
  decide

theorem skip_newLine (k : Nat) {c : Char} (solid : isSpace c = false) (tail : List Char) :
    skip ((newLine k).toList ++ c :: tail) = c :: tail :=
  (skip_spaces (isSpace_newLine k) _).trans (skip_of_head solid tail)

/-- A member is read as it is written, up to where its value ends. -/
theorem member_of_writes {name : Text} {value : Pieces} {d : Datum} (spelled : Spell depth value d)
    {text : List Char} (writes : Writes (renderText name :: .ok ": " :: value) text) :
    ∃ body, text = '"' :: body ∧ ∀ tail, Parted tail →
      Member depth name d tail ('"' :: (body ++ tail)) := by
  obtain ⟨nameText, _, named, behind, rfl⟩ := writes_cons writes
  obtain ⟨_, valueText, colon, valued, rfl⟩ := writes_cons behind
  cases colon
  obtain ⟨⟨c, more, rfl, solid⟩, read⟩ := spelled valueText valued
  obtain ⟨body, split, -⟩ := readsText_renderText named (": ".toList ++ c :: more)
  refine ⟨body, split, fun tail parted => ?_⟩
  obtain ⟨whole, split', readName⟩ :=
    readsText_renderText named (": ".toList ++ (c :: more ++ tail))
  obtain rfl : body ++ tail = whole := by
    have same : '"' :: (body ++ tail) = '"' :: whole := by
      rw [← split', ← List.cons_append, ← split]
      simp
    exact (List.cons.inj same).2
  have space : ∀ c ∈ [' '], isSpace c = true := by simp [isSpace]
  have blank : skip (' ' :: (c :: more ++ tail)) = c :: more ++ tail :=
    (skip_spaces space _).trans (skip_of_head solid _)
  have named : ReadsText ((body ++ tail).length + 1) (body ++ tail) name
      (':' :: ' ' :: (c :: more ++ tail)) := readName _
  refine .mk named ?_
  rw [blank]
  exact read tail parted

/-- The name and the datum of a member are those of an entry. -/
def Spells (depth : Nat) (member : Text × Pieces) (entry : Atom × Datum) : Prop :=
  entry.1 = .text member.1 ∧ Spell depth member.2 entry.2

/-- The members of an object are read as they are written. -/
theorem readsMembers_of_writes {k : Nat} {members : List (Text × Pieces)}
    {entries : List (Atom × Datum)} (spelled : List.Forall₂ (Spells depth) members entries)
    (nonempty : members ≠ []) (before : String) {text : List Char}
    (writes : Writes (memberPieces k before members) text) :
    ∃ body, text = before.toList ++ ((newLine (k + 1)).toList ++ '"' :: body) ∧
      ∀ rest, ReadsMembers depth ('"' :: (body ++ ((newLine k).toList ++ '\x7d' :: rest)))
        entries rest := by
  induction spelled generalizing before text with
  | nil => exact absurd rfl nonempty
  | @cons member entry members entries first others ih =>
    obtain ⟨name, value⟩ := member
    obtain ⟨_, d⟩ := entry
    obtain ⟨rfl, first⟩ := first
    obtain ⟨_, more, writesFirst, writesMore, rfl⟩ := writes_append writes
    obtain ⟨_, _, line, behind, rfl⟩ := writes_cons writesFirst
    cases line
    obtain ⟨body, rfl, member⟩ := member_of_writes first behind
    cases others with
    | nil =>
      obtain rfl := writes_nil writesMore
      refine ⟨body, by simp, fun rest => ?_⟩
      exact (member _ (parted_newLine k _)).last (skip_newLine k rfl rest)
    | cons second others =>
      obtain ⟨next, rfl, read⟩ := ih nofun "," writesMore
      refine ⟨body ++ (',' :: ((newLine (k + 1)).toList ++ '"' :: next)), by simp,
        fun rest => ?_⟩
      have parted : Parted (',' :: ((newLine (k + 1)).toList ++
          '"' :: (next ++ ((newLine k).toList ++ '\x7d' :: rest)))) := by
        rintro _ ⟨⟩
        decide
      have more := (member _ parted).more rfl (by
        rw [skip_newLine (k + 1) rfl]
        exact read rest)
      simpa using more

theorem readsValue_empty {inner : List Char} (close : skip inner = '\x7d' :: rest) (depth : Nat) :
    ReadsValue (depth + 1) ('\x7b' :: inner) (.map []) rest := by
  refine ⟨Nat.lt_succ_of_lt (length_of_skip close), ?_⟩
  rw [Json.value, if_neg (Nat.succ_ne_zero depth)]
  split
  · rename_i after same
    obtain rfl := (List.cons.inj (close.symm.trans same)).2
    rfl
  · rename_i other
    exact absurd close (other rest)

theorem ReadsMembers.value {inner body : List Char} {entries : List (Atom × Datum)}
    (h : ReadsMembers depth ('"' :: body) entries rest) (first : skip inner = '"' :: body) :
    ReadsValue (depth + 1) ('\x7b' :: inner) (.map (Fields.ofEntries entries)) rest := by
  obtain ⟨shorter, read⟩ : ReadsMembers depth (skip inner) entries rest := by
    rw [first]
    exact h
  have within := length_skip_le inner
  refine ⟨by rw [List.length_cons]; omega, ?_⟩
  rw [Json.value, if_neg (Nat.succ_ne_zero depth)]
  split
  · rename_i after same
    cases first.symm.trans same
  · rw [Nat.add_sub_cancel, read]
    rfl

/-- **An object is read as it is written**, if its members are. -/
theorem spell_object {k : Nat} {members : List (Text × Pieces)} {entries : List (Atom × Datum)}
    (spelled : List.Forall₂ (Spells depth) members entries) :
    Spell (depth + 1) (objectPieces k members) (.map (Fields.ofEntries entries)) := by
  intro text writes
  cases spelled with
  | nil =>
    obtain ⟨written, braces, rfl⟩ := writes_single writes
    cases braces
    exact ⟨⟨'\x7b', ['\x7d'], rfl, rfl⟩, fun rest _ => readsValue_empty rfl depth⟩
  | @cons member entry members entries first others =>
    obtain ⟨_, _, opened, closed, rfl⟩ := writes_append writes
    obtain ⟨_, brace, rfl⟩ := writes_single closed
    cases brace
    obtain ⟨body, rfl, read⟩ := readsMembers_of_writes (.cons first others) nofun "\x7b" opened
    refine ⟨⟨'\x7b', _, rfl, rfl⟩, fun rest _ => ?_⟩
    have value := (read rest).value (skip_newLine (k + 1) rfl _)
    simpa using value

/-! ## 5. Whole texts -/

/-- **What pieces spell is decoded**, unless it begins with a byte order mark. -/
theorem read_of_writes {pieces : Pieces} {d : Datum} (spelled : Spell depthLimit pieces d)
    {text : List Char} (writes : Writes pieces text)
    (plain : text.head? ≠ some (Char.ofNat 0xFEFF)) : Json.read text = .ok d := by
  obtain ⟨⟨c, tail, rfl, solid⟩, read⟩ := spelled text writes
  have read := read [] nofun
  rw [List.append_nil, ← skip_of_head solid tail] at read
  obtain ⟨shorter, read⟩ := read
  rw [Json.read, if_neg plain, read]
  rfl

end Gamebook.Json

namespace Gamebook.Fields

variable {δ : Type}

/-- A new name goes last. -/
theorem put_of_not_mem {name : Text} {fields : List (Text × δ)}
    (new : name ∉ fields.map Prod.fst) (value : δ) :
    put (.text name) value (fields.map fun field => (.text field.1, field.2)) =
      (fields ++ [(name, value)]).map fun field => (.text field.1, field.2) := by
  induction fields with
  | nil => rfl
  | cons field rest ih =>
    rw [List.map_cons, List.mem_cons, not_or] at new
    have other : (Atom.text field.1).same (.text name) = false := by
      simpa [Atom.same, Atom.keyNumber?] using fun same => new.1 same.symm
    rw [List.map_cons, put, if_neg (by simp [other]), ih new.2]
    rfl

theorem foldl_put_names (more fields : List (Text × δ))
    (distinct : ((fields ++ more).map Prod.fst).Nodup) :
    (more.map fun field => (Atom.text field.1, field.2)).foldl
        (fun written entry => put entry.1 entry.2 written)
        (fields.map fun field => (.text field.1, field.2)) =
      (fields ++ more).map fun field => (.text field.1, field.2) := by
  induction more generalizing fields with
  | nil => simp
  | cons field more ih =>
    have new : field.1 ∉ fields.map Prod.fst := by
      rw [List.map_append, List.nodup_append] at distinct
      exact fun mem => distinct.2.2 field.1 mem field.1 (by simp) rfl
    have moved : fields ++ field :: more = fields ++ [field] ++ more := by simp
    rw [moved] at distinct ⊢
    rw [List.map_cons, List.foldl_cons, put_of_not_mem new]
    exact ih (fields ++ [field]) distinct

/-- **Entries of different names are a mapping as they stand.** -/
theorem ofEntries_names {fields : List (Text × δ)} (distinct : (fields.map Prod.fst).Nodup) :
    ofEntries (fields.map fun field => (Atom.text field.1, field.2)) =
      fields.map fun field => (.text field.1, field.2) :=
  foldl_put_names fields [] distinct

end Gamebook.Fields

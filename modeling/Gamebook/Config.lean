/-
# The configuration of a story

Which scenes are endings, how an ending is chosen, and how far along the scenes are.
`Config.ofDocument` reads a configuration from a decoded document and is tolerant key by key: a
value that cannot be used leaves the default of its own key in place.  Only an integer beyond
the finite doubles is a fault, and so is a useless value that the warning about it cannot show
because it is nested too deeply.
-/
import Gamebook.Datum.Layer
import Gamebook.Table

namespace Gamebook

/-- A decimal constant as a double. -/
def Number.ofDecimal (digits : Nat) (exponent : Int) : Number :=
  .double (Decimal.toBinary64 false ⟨digits, exponent⟩)

/-- The settings of a story. -/
structure Config where
  /-- What the names of ending scenes start with. -/
  endingPrefix : Text := "end_"
  goodEnding : Text := "end_good"
  neutralEnding : Text := "end_neutral"
  badEnding : Text := "end_bad"
  deathEnding : Text := "end_death"
  /-- The least emotion of the good ending. -/
  goodThreshold : Number := .int 7
  /-- The least emotion of the neutral ending. -/
  neutralThreshold : Number := .int 4
  /-- The least risk that may be deadly. -/
  riskThreshold : Number := .int 4
  deathChancePerRisk : Number := .ofDecimal 5 (-2)
  deathChanceCap : Number := .ofDecimal 3 (-1)
  /-- How far along a scene is, from zero to one. -/
  milestones : Table Number := Table.ofList
    [("cp1", .ofDecimal 25 (-2)), ("cp2", .ofDecimal 5 (-1)), ("cp3", .ofDecimal 75 (-2)),
     ("cp4", .ofDecimal 1 0)]
  seed : Option Int := none
deriving DecidableEq, Inhabited

namespace Config

/-- Whether a scene is an ending. -/
def isEndingScene (config : Config) (scene : Text) : Bool :=
  !scene.isEmpty && config.endingPrefix.isPrefixOf scene

/-! ## Reading -/

section

variable {δ : Type} [Layered δ]

/-- The double that a part of a document stands for, if it stands for one: a truth value, a
number, or a numeral written as text or as bytes. -/
def double? (d : δ) : Except Fault (Option Binary64) :=
  match Layered.layer d with
  | .atom (.bool b) => .ok (some (.ofBool b))
  | .atom (.number n) => n.toBinary64.map some
  | .atom (.text t) => .ok (Literal.double? t.toChars)
  | .atom (.bytes bs) =>
    .ok (if bs.all (· < 128) then Literal.double? (bs.map fun b => Char.ofNat b.toNat) else none)
  | _ => .ok none

/-- Warns of a value that is of no use; `logs` is whether warnings are written at all.  A warning
shows the value, and where it cannot for the digits in it there is no warning and nothing else comes
of that.  But a value that is nested too deeply to be shown is a fault. -/
def warn (logs : Bool) (d : δ) : Except Fault Unit :=
  if logs then
    match Layered.shown d with
    | .error .tooDeep => .error .tooDeep
    | _ => .ok ()
  else .ok ()

/-- The text at a key, or else the default: also for an empty text or one of another kind, of which
is warned. -/
def textAt (logs : Bool) (fields : Fields δ) (key default : Text) : Except Fault Text :=
  match fields.named? key with
  | none => .ok default
  | some d =>
    match Layered.layer d with
    | .atom (.text (c :: t)) => .ok (c :: t)
    | _ => do
      warn logs d
      return default

/-- The double at a key.  A missing one is the default as a double; one that cannot be read is
the default as it is written, of which is warned. -/
def doubleAt (logs : Bool) (fields : Fields δ) (key : Text) (default : Number) :
    Except Fault Number :=
  match fields.named? key with
  | none => default.toBinary64.map .double
  | some d => do
    match ← double? d with
    | some x => return .double x
    | none =>
      warn logs d
      return default

/-- The milestones of a mapping, if every key and every value of it can be used. -/
def milestonesOf : Fields δ → Except Fault (Option (List (Text × Number)))
  | [] => .ok (some [])
  | (key, value) :: rest =>
    match key.plain with
    | .error _ => .ok none
    | .ok name => do
      match ← double? value with
      | none => return none
      | some x => return (← milestonesOf rest).map ((name, .double x) :: ·)

/-- The milestones at their key; one that cannot be used leaves all the defaults in place.  The
warning of that does not show it. -/
def milestonesAt (fields : Fields δ) (default : Table Number) : Except Fault (Table Number) :=
  match (fields.named? "progress_milestones").map Layered.layer with
  | some (.map found) => do
    match ← milestonesOf found with
    | some values => return Table.ofList values
    | none => return default
  | _ => .ok default

/-- The seed at its key: an integer.  Of anything else but null is warned. -/
def seedAt (logs : Bool) (fields : Fields δ) : Except Fault (Option Int) :=
  match fields.named? "seed" with
  | none => .ok none
  | some d =>
    match Layered.layer d with
    | .atom .null => .ok none
    | .atom (.number (.int n)) => .ok (some n)
    | _ => do
      warn logs d
      return none

/-- Reads a configuration from the entries of a mapping. -/
def ofFields (logs : Bool) (fields : Fields δ) : Except Fault Config := do
  let base : Config := {}
  return {
    milestones := ← milestonesAt fields base.milestones
    seed := ← seedAt logs fields
    endingPrefix := ← textAt logs fields "ending_prefix" base.endingPrefix
    goodEnding := ← textAt logs fields "good_ending" base.goodEnding
    neutralEnding := ← textAt logs fields "neutral_ending" base.neutralEnding
    badEnding := ← textAt logs fields "bad_ending" base.badEnding
    deathEnding := ← textAt logs fields "death_ending" base.deathEnding
    goodThreshold := ← doubleAt logs fields "good_threshold" base.goodThreshold
    neutralThreshold := ← doubleAt logs fields "neutral_threshold" base.neutralThreshold
    riskThreshold := ← doubleAt logs fields "risk_threshold" base.riskThreshold
    deathChancePerRisk := ← doubleAt logs fields "death_chance_per_risk" base.deathChancePerRisk
    deathChanceCap := ← doubleAt logs fields "death_chance_cap" base.deathChanceCap }

/-- **Reads a configuration.**  What is no mapping gives the default configuration. -/
def ofDocument (logs : Bool) (d : δ) : Except Fault Config :=
  match Layered.layer d with
  | .map fields => ofFields logs fields
  | _ => .ok {}

end

end Config
end Gamebook

/-
# Which ending a story comes to

The variables `risk` and `emotion` decide.  From a threshold on, risk may be deadly: its chance
is proportional to the risk, up to a cap, and one draw is taken to see.  Otherwise emotion is
compared with two thresholds.
-/
import Gamebook.Chance.Source
import Gamebook.Config
import Gamebook.Variable.Store

namespace Gamebook.Ending

/-- The chance of the death ending: none below the threshold, else proportional to the risk, up
to the cap. -/
def deathChance (config : Config) (risk : Number) : Except Fault Number :=
  if risk.lt config.riskThreshold then .ok (.double (.zero false))
  else do return Number.capped config.deathChanceCap (← risk.mul config.deathChancePerRisk)

/-- The ending that an emotion leads to. -/
def ofEmotion (config : Config) (emotion : Number) : Text :=
  if config.goodThreshold.le emotion then config.goodEnding
  else if config.neutralThreshold.le emotion then config.neutralEnding
  else config.badEnding

/-- The number that a variable counts as, zero if it counts as none. -/
def reading (store : Store) (name : Text) : Number := (store.get name).toNumber .zero

/-- **The ending for the current variables**, and the source after the draw, if one was taken:
a draw is taken only if the chance of death is above zero. -/
def resolve (config : Config) (store : Store) (source : Source) :
    Except Fault (Text × Source) := do
  let chance ← deathChance config (reading store "risk")
  let quiet := ofEmotion config (reading store "emotion")
  if Number.lt .zero chance then
    let (draw, source) := source.draw
    return (if (Number.double draw).lt chance then config.deathEnding else quiet, source)
  else
    return (quiet, source)

end Gamebook.Ending

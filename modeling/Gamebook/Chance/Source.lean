/-
# Sources of chance

The ending of a story may hang on draws from the interval from zero to one.  A source gives
them one after another: from a list that starts over at its end, or from a seeded generator,
whose draws are multiples of `2 ^ -53`.
-/
import Gamebook.Chance.Twister
import Gamebook.Number.Basic
import Gamebook.Number.Decimal

namespace Gamebook

/-- Where draws come from, and how many were taken. -/
inductive Source where
  | listed (draws : List Binary64) (taken : Nat)
  | seeded (generator : Twister) (taken : Nat)
deriving DecidableEq

namespace Source

/-- One half. -/
def half : Binary64 := Decimal.toBinary64 false ⟨5, -1⟩

/-- The source that always gives one half. -/
def constant : Source := .listed [half] 0

instance : Inhabited Source := ⟨constant⟩

/-- The source of a seed. -/
def ofSeed (seed : Int) : Source := .seeded (Twister.seeded seed) 0

/-- How many draws were taken. -/
def taken : Source → Nat
  | .listed _ taken | .seeded _ taken => taken

/-- A draw made of two words: 27 bits of the first and 26 of the second. -/
def drawOf (high low : UInt32) : Binary64 :=
  Binary64.ofQuotient false (((high >>> 5).toNat * Nat.pow 2 26 + (low >>> 6).toNat) * unitsPerOne)
    (Nat.pow 2 53)

/-- Takes the next draw; a source with an empty list gives one half. -/
def draw : Source → Binary64 × Source
  | .listed draws taken =>
    (draws.getD (taken % draws.length) half, .listed draws (taken + 1))
  | .seeded generator taken =>
    let (high, generator) := generator.next
    let (low, generator) := generator.next
    (drawOf high low, .seeded generator (taken + 1))

end Source
end Gamebook

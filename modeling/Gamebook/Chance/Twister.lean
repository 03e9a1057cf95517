/-
# The twister: a generator of random words

A shift register over 624 words of 32 bits, with period `2 ^ 19937 - 1`.  A seed is any
integer: the words of its absolute value, least significant first, are mixed into the register.
Every 624 outputs the register is refilled by `refill`, and `temper` makes an output of a word
of it.
-/

namespace Gamebook

/-- The register of the generator, and how many of its words were given out. -/
structure Twister where
  words : Array UInt32
  used : Nat
deriving DecidableEq, Inhabited

namespace Twister

/-- The length of the register. -/
def size : Nat := 624

/-- The word at a place of the register. -/
def wordAt (words : Array UInt32) (i : Nat) : UInt32 := words.getD i 0

/-! ## 1. Seeding -/

/-- A register filled from one word, each word from the one before it. -/
def fill (seed : UInt32) : Array UInt32 :=
  (List.range (size - 1)).foldl (fun words i =>
    let previous := wordAt words i
    let scrambled := (1812433253 : UInt32) * (previous ^^^ (previous >>> 30))
    words.push (scrambled + UInt32.ofNat (i + 1))) #[seed]

/-- The words of a natural number, least significant first; zero has one. -/
def wordsOf (n : Nat) : List UInt32 :=
  if n < UInt32.size then [UInt32.ofNat n]
  else UInt32.ofNat (n % UInt32.size) :: wordsOf (n / UInt32.size)
termination_by n
decreasing_by
  have large : UInt32.size ≤ n := Nat.le_of_not_lt ‹_›
  exact Nat.div_lt_self (Nat.lt_of_lt_of_le (by decide) large) (by decide)

/-- The place after `i` in a walk over the register that leaves out the first place. -/
def nextPlace (i : Nat) : Nat := if i + 1 < size then i + 1 else 1

/-- Writes a word at a place; the last word is copied to the first place. -/
def write (words : Array UInt32) (i : Nat) (w : UInt32) : Array UInt32 :=
  let written := words.setIfInBounds i w
  if i + 1 < size then written else written.setIfInBounds 0 w

/-- One pass of mixing: at each place, `mix` makes a new word of the old one and the one before
it, scrambled by `factor`. -/
def mixPass (factor : UInt32) (mix : Nat → Nat → UInt32 → UInt32) (rounds : Nat)
    (start : Array UInt32 × Nat) : Array UInt32 × Nat :=
  (List.range rounds).foldl (fun (words, i) round =>
    let previous := wordAt words (i - 1)
    let scrambled := wordAt words i ^^^ ((previous ^^^ (previous >>> 30)) * factor)
    (write words i (mix round i scrambled), nextPlace i)) start

/-- The generator of a seed. -/
def seeded (seed : Int) : Twister :=
  let key := (wordsOf seed.natAbs).toArray
  let keyed := mixPass 1664525
    (fun round _ w => w + wordAt key (round % key.size) + UInt32.ofNat (round % key.size))
    (max size key.size) (fill 19650218, 1)
  let mixed := mixPass 1566083941 (fun _ i w => w - UInt32.ofNat i) (size - 1) keyed
  ⟨mixed.1.setIfInBounds 0 0x80000000, size⟩

/-! ## 2. Output -/

/-- The word that replaces the one at place `i`: its upper bit joined with the lower bits of the
next word, shifted, and combined with the word 397 places on. -/
def refilled (words : Array UInt32) (i : Nat) : UInt32 :=
  let joined := (wordAt words i &&& 0x80000000)
    ||| (wordAt words ((i + 1) % size) &&& 0x7FFFFFFF)
  wordAt words ((i + 397) % size) ^^^ (joined >>> 1)
    ^^^ (if joined &&& 1 = 1 then 0x9908B0DF else 0)

/-- The register with all its words replaced, one after another. -/
def refill (words : Array UInt32) : Array UInt32 :=
  (List.range size).foldl (fun words i => words.setIfInBounds i (refilled words i)) words

/-- The output of a word of the register. -/
def temper (w : UInt32) : UInt32 :=
  let w := w ^^^ (w >>> 11)
  let w := w ^^^ ((w <<< 7) &&& 0x9D2C5680)
  let w := w ^^^ ((w <<< 15) &&& 0xEFC60000)
  w ^^^ (w >>> 18)

/-- The next output. -/
def next (t : Twister) : UInt32 × Twister :=
  if t.used < size then (temper (wordAt t.words t.used), { t with used := t.used + 1 })
  else
    let words := refill t.words
    (temper (wordAt words 0), ⟨words, 1⟩)

end Twister
end Gamebook

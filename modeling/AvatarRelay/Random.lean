/-
# Reproducible chance

All chance comes from one stream of words: the ChaCha key stream with twelve
rounds, a key derived from a seed, and blocks counted from zero. Draws take words
off the stream in order, so the same seed and the same questions give the same
answers. A draw that may reject its words is attempted as often as the caller says; no
draw of a relay is one, only those of a crowd are.
-/

import AvatarRelay.Binary32.Arithmetic
import AvatarRelay.DoublePrecision

namespace AvatarRelay

/-- A stream of words: the key, the number of the next block, and the words of the
current block that were not drawn yet. -/
structure Random where
  key : Vector UInt32 8
  nextBlock : UInt64
  words : List UInt32
  deriving DecidableEq

abbrev ChaChaBlock := Vector UInt32 16

namespace ChaChaBlock

def turnLeft (word : UInt32) (bits : UInt32) : UInt32 :=
  (word <<< bits) ||| (word >>> (32 - bits))

def quarterRound (block : ChaChaBlock) (first second third fourth : Fin 16) : ChaChaBlock :=
  let a := block[first] + block[second]
  let d := turnLeft (block[fourth] ^^^ a) 16
  let c := block[third] + d
  let b := turnLeft (block[second] ^^^ c) 12
  let a := a + b
  let d := turnLeft (d ^^^ a) 8
  let c := c + d
  let b := turnLeft (b ^^^ c) 7
  (((block.set first a).set second b).set third c).set fourth d

/-- Mixes the columns, then the diagonals. -/
def doubleRound (block : ChaChaBlock) : ChaChaBlock :=
  let block := block.quarterRound 0 4 8 12
  let block := block.quarterRound 1 5 9 13
  let block := block.quarterRound 2 6 10 14
  let block := block.quarterRound 3 7 11 15
  let block := block.quarterRound 0 5 10 15
  let block := block.quarterRound 1 6 11 12
  let block := block.quarterRound 2 7 8 13
  block.quarterRound 3 4 9 14

/-- A block before mixing: the constant, the key, the block's number in two words,
and a nonce of zero. -/
def initial (key : Vector UInt32 8) (number : UInt64) : ChaChaBlock :=
  #v[0x61707865, 0x3320646e, 0x79622d32, 0x6b206574,
    key[0], key[1], key[2], key[3], key[4], key[5], key[6], key[7],
    number.toUInt32, (number >>> 32).toUInt32, 0, 0]

/-- The words of a block: six double rounds, added to the block before them. -/
def words (key : Vector UInt32 8) (number : UInt64) : List UInt32 :=
  let start := initial key number
  let mixed := start |> doubleRound |> doubleRound |> doubleRound
    |> doubleRound |> doubleRound |> doubleRound
  (mixed.zipWith (· + ·) start).toList

end ChaChaBlock

namespace Random

-- Powers are those of the core library, whatever other instances are in scope.
attribute [local instance (2000)] instPowNat

def seedStep (state : UInt64) : UInt64 :=
  state * 6364136223846793005 + 11634580027462260723

/-- The word that a state of the derivation yields: its high bits folded together
and turned right by its five highest bits. -/
def seedWord (state : UInt64) : UInt32 :=
  let folded := (((state >>> 18) ^^^ state) >>> 27).toUInt32
  let turn := (state >>> 59).toUInt32
  (folded >>> turn) ||| (folded <<< ((32 - turn) % 32))

def seedKey (seed : UInt64) : Vector UInt32 8 :=
  let states := Vector.ofFn fun (place : Fin 8) => (place.val + 1).repeat seedStep seed
  states.map seedWord

def ofSeed (seed : UInt64) : Random :=
  ⟨seedKey seed, 0, []⟩

def word (random : Random) : UInt32 × Random :=
  match random.words with
  | word :: rest => (word, { random with words := rest })
  | [] =>
    match ChaChaBlock.words random.key random.nextBlock with
    | word :: rest => (word, { random with nextBlock := random.nextBlock + 1, words := rest })
    | [] => (0, random)

/-- Draws a double word, the low half first. -/
def doubleWord (random : Random) : UInt64 × Random :=
  let (low, random) := random.word
  let (high, random) := random.word
  (high.toUInt64 <<< 32 ||| low.toUInt64, random)

/-- Draws a fraction of at least zero and less than one, in steps of `2 ^ -24`. -/
def unit (random : Random) : Binary32 × Random :=
  let (word, random) := random.word
  (Binary32.ofFraction false (word.toNat / 2 ^ (8 : Nat)) (2 ^ (24 : Nat)), random)

/-- Attempts to draw until an answer is accepted. After so many in vain the draw settles
for a last resort. -/
def untilAccepted {α : Type} (resort : α) (attempt : Random → Option α × Random) :
    Nat → Random → α × Random
  | 0, random => (resort, random)
  | attempts + 1, random =>
    match attempt random with
    | (some answer, random) => (answer, random)
    | (none, random) => untilAccepted resort attempt attempts random

/-- A number between one and two from the high bits of a word, less one. -/
def fractionOfWord (word : UInt32) : Binary32 :=
  (⟨(word >>> 9) ||| 0x3f800000⟩ : Binary32) - 1

/-- An attempt at a number between two; one that rounding has pushed up to `high` is not
accepted. -/
def tryBetween (low high : Binary32) (random : Random) : Option Binary32 × Random :=
  let (word, random) := random.word
  let number := fractionOfWord word * (high - low) + low
  (if number < high then some number else none, random)

/-- Draws a number of at least `low` and less than `high`. -/
def between (attempts : Nat) (low high : Binary32) (random : Random) : Binary32 × Random :=
  untilAccepted low (tryBetween low high) attempts random

/-- The widest multiple of a count that still allows even draws of `width` bits,
less one. -/
def evenZone (width count : Nat) : Nat :=
  count * 2 ^ (width - 1 - count.log2) - 1

/-- An attempt at a number below a count from a word of `width` bits: the high half of
the product of word and count, unless the low half lies beyond the even zone. -/
def tryBelow (width count : Nat) (draw : Random → Nat × Random) (random : Random) :
    Option Nat × Random :=
  let (word, random) := draw random
  let product := word * count
  (if product % 2 ^ width ≤ evenZone width count then some (product / 2 ^ width) else none,
    random)

/-- Draws a number below a count from single words. -/
def below32 (attempts count : Nat) (random : Random) : Nat × Random :=
  untilAccepted 0 (tryBelow 32 count fun random => (random.word.1.toNat, random.word.2))
    attempts random

def below64 (attempts count : Nat) (random : Random) : Nat × Random :=
  untilAccepted 0
    (tryBelow 64 count fun random => (random.doubleWord.1.toNat, random.doubleWord.2))
    attempts random

/-- Draws whether an event of the given probability happens. A certain event takes
no draw. -/
def happens (probability : BinaryFraction) (random : Random) : Bool × Random :=
  let threshold := probability.floorScaled UInt64.size
  if threshold = UInt64.size then (true, random)
  else
    let (draw, random) := random.doubleWord
    (draw.toNat < threshold, random)

end Random

end AvatarRelay

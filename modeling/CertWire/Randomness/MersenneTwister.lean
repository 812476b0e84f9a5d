import CertWire.Randomness.Draw

/-! The 32-bit Mersenne Twister: a state of 624 words, regenerated as a whole when all of
them have been given out, each tempered on its way out. Integers of any size seed it. -/

namespace CertWire.Randomness

structure MersenneTwister where
  words : Array UInt32
  /-- How many words of the state have been given out. -/
  given : Nat

namespace MersenneTwister

def stateSize : Nat := 624

/-- How far ahead the word stands that another is regenerated from. -/
def shiftSize : Nat := 397

/-- What one word passes on to the next. -/
def carried (word : UInt32) : UInt32 := word ^^^ word >>> 30

/-- The state grown from one word. -/
def grown (seed : UInt32) : Array UInt32 :=
  (List.range (stateSize - 1)).foldl
    (fun words index => words.push (carried (words.getD index 0) * 1812433253 + UInt32.ofNat (index + 1)))
    #[seed]

/-- A state in which the key is being mixed, and the place whose turn it is. -/
structure Mixing where
  words : Array UInt32
  place : Nat

/-- Mixes a word with the one before it and moves on. The last word is also the one before
the first turn of the next pass. -/
def Mixing.step (mixing : Mixing) (factor addend : UInt32) : Mixing :=
  let before := mixing.words.getD (mixing.place - 1) 0
  let mixed := (mixing.words.getD mixing.place 0 ^^^ carried before * factor) + addend
  let words := mixing.words.setIfInBounds mixing.place mixed
  if mixing.place + 1 < stateSize then ⟨words, mixing.place + 1⟩ else ⟨words.setIfInBounds 0 mixed, 1⟩

/-- The words of a number, least significant first; there is at least one. -/
def wordsOf (number : Nat) : List UInt32 :=
  if number < UInt32.size then [UInt32.ofNat number]
  else UInt32.ofNat number :: wordsOf (number / UInt32.size)
termination_by number
decreasing_by exact Nat.div_lt_self (by simp only [UInt32.size] at *; omega) (by decide)

/-- The generator for a key of at least one word. -/
def ofKey (key : Array UInt32) : MersenneTwister :=
  let keyed :=
    (List.range (max stateSize key.size)).foldl
      (fun (mixing : Mixing) turn =>
        let index := turn % key.size
        mixing.step 1664525 (key.getD index 0 + UInt32.ofNat index))
      ⟨grown 19650218, 1⟩
  let spread :=
    (List.range (stateSize - 1)).foldl
      (fun (mixing : Mixing) _ => mixing.step 1566083941 (0 - UInt32.ofNat mixing.place))
      keyed
  ⟨spread.words.setIfInBounds 0 0x80000000, stateSize⟩

/-- The generator for a seed, whose sign does not count. -/
def ofSeed (seed : Int) : MersenneTwister := ofKey (wordsOf seed.natAbs).toArray

/-- Regenerates one word in its place, from the words ahead of it as they are by then. -/
def twistAt (words : Array UInt32) (place : Nat) : Array UInt32 :=
  let ahead (distance : Nat) := words.getD ((place + distance) % stateSize) 0
  let joined := ahead 0 &&& 0x80000000 ||| ahead 1 &&& 0x7fffffff
  let feedback : UInt32 := if joined &&& 1 = 1 then 0x9908b0df else 0
  words.setIfInBounds place (ahead shiftSize ^^^ joined >>> 1 ^^^ feedback)

/-- The state after the next regeneration. -/
def twist (words : Array UInt32) : Array UInt32 := (List.range stateSize).foldl twistAt words

def tempered (word : UInt32) : UInt32 :=
  let word := word ^^^ word >>> 11
  let word := word ^^^ word <<< 7 &&& 0x9d2c5680
  let word := word ^^^ word <<< 15 &&& 0xefc60000
  word ^^^ word >>> 18

def next (generator : MersenneTwister) : UInt32 × MersenneTwister :=
  let ready := if generator.given < stateSize then generator else ⟨twist generator.words, 0⟩
  (tempered (ready.words.getD ready.given 0), ⟨ready.words, ready.given + 1⟩)

end MersenneTwister

instance : WordSource MersenneTwister where
  next := MersenneTwister.next

end CertWire.Randomness

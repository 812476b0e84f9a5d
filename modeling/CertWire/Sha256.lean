import CertWire.Octets

/-! The digest SHA-256: padding to whole blocks, the schedule of words for a block, and the
compression that folds one block after the other into eight words. -/

namespace CertWire.Sha256

/-- The first 32 bits of the fractions of the cube roots of the first 64 primes. -/
def roundConstants : List UInt32 :=
  [0x428a2f98, 0x71374491, 0xb5c0fbcf, 0xe9b5dba5, 0x3956c25b, 0x59f111f1, 0x923f82a4, 0xab1c5ed5, 0xd807aa98,
   0x12835b01, 0x243185be, 0x550c7dc3, 0x72be5d74, 0x80deb1fe, 0x9bdc06a7, 0xc19bf174, 0xe49b69c1, 0xefbe4786,
   0x0fc19dc6, 0x240ca1cc, 0x2de92c6f, 0x4a7484aa, 0x5cb0a9dc, 0x76f988da, 0x983e5152, 0xa831c66d, 0xb00327c8,
   0xbf597fc7, 0xc6e00bf3, 0xd5a79147, 0x06ca6351, 0x14292967, 0x27b70a85, 0x2e1b2138, 0x4d2c6dfc, 0x53380d13,
   0x650a7354, 0x766a0abb, 0x81c2c92e, 0x92722c85, 0xa2bfe8a1, 0xa81a664b, 0xc24b8b70, 0xc76c51a3, 0xd192e819,
   0xd6990624, 0xf40e3585, 0x106aa070, 0x19a4c116, 0x1e376c08, 0x2748774c, 0x34b0bcb5, 0x391c0cb3, 0x4ed8aa4a,
   0x5b9cca4f, 0x682e6ff3, 0x748f82ee, 0x78a5636f, 0x84c87814, 0x8cc70208, 0x90befffa, 0xa4506ceb, 0xbef9a3f7,
   0xc67178f2]

/-- Eight words, from `a` to `h`. -/
structure State where
  a : UInt32
  b : UInt32
  c : UInt32
  d : UInt32
  e : UInt32
  f : UInt32
  g : UInt32
  h : UInt32
deriving DecidableEq, Repr

/-- The first 32 bits of the fractions of the square roots of the first 8 primes. -/
def initial : State :=
  ⟨0x6a09e667, 0xbb67ae85, 0x3c6ef372, 0xa54ff53a,
    0x510e527f, 0x9b05688c, 0x1f83d9ab, 0x5be0cd19⟩

def rotateRight (word : UInt32) (count : UInt32) : UInt32 := (word >>> count) ||| (word <<< (32 - count))

/-- The octets, a one bit, zeros up to 8 octets before a block ends, and the length in bits. -/
def pad (octets : Octets) : Octets :=
  octets ++ 0x80 :: List.replicate ((119 - octets.length % 64) % 64) 0 ++ Octets.ofInt 8 (8 * octets.length)

/-- Groups of four octets as words. -/
def words : Octets → List UInt32
  | first :: second :: third :: fourth :: rest =>
    (first.toUInt32 <<< 24 ||| second.toUInt32 <<< 16 ||| third.toUInt32 <<< 8 ||| fourth.toUInt32) :: words rest
  | _ => []

/-- The word that follows at least sixteen words of a schedule. -/
def nextWord (schedule : Array UInt32) : UInt32 :=
  let back (distance : Nat) := schedule.getD (schedule.size - distance) 0
  let small0 := rotateRight (back 15) 7 ^^^ rotateRight (back 15) 18 ^^^ (back 15 >>> 3)
  let small1 := rotateRight (back 2) 17 ^^^ rotateRight (back 2) 19 ^^^ (back 2 >>> 10)
  back 16 + small0 + back 7 + small1

/-- The sixteen words of a block, and 48 more made from them. -/
def schedule (block : List UInt32) : List UInt32 :=
  ((List.range 48).foldl (fun schedule _ => schedule.push (nextWord schedule)) block.toArray).toList

def round (state : State) (input : UInt32 × UInt32) : State :=
  let large1 := rotateRight state.e 6 ^^^ rotateRight state.e 11 ^^^ rotateRight state.e 25
  let choice := (state.e &&& state.f) ^^^ (~~~state.e &&& state.g)
  let first := state.h + large1 + choice + input.1 + input.2
  let large0 := rotateRight state.a 2 ^^^ rotateRight state.a 13 ^^^ rotateRight state.a 22
  let majority := (state.a &&& state.b) ^^^ (state.a &&& state.c) ^^^ (state.b &&& state.c)
  ⟨first + (large0 + majority), state.a, state.b, state.c, state.d + first, state.e, state.f, state.g⟩

/-- Folds one block into the state. -/
def compress (state : State) (block : List UInt32) : State :=
  let last := (roundConstants.zip (schedule block)).foldl round state
  ⟨state.a + last.a, state.b + last.b, state.c + last.c, state.d + last.d, state.e + last.e, state.f + last.f,
    state.g + last.g, state.h + last.h⟩

/-- Folds so many blocks of 64 octets into the state. -/
def compressAll (state : State) : (count : Nat) → Octets → State
  | 0, _ => state
  | count + 1, octets => compressAll (compress state (words (octets.take 64))) count (octets.drop 64)

def State.octets (state : State) : Octets :=
  [state.a, state.b, state.c, state.d, state.e, state.f, state.g, state.h].flatMap fun (word : UInt32) =>
    [(word >>> 24).toUInt8, (word >>> 16).toUInt8, (word >>> 8).toUInt8, word.toUInt8]

/-- The digest of the octets: 32 octets. -/
def digest (octets : Octets) : Octets :=
  let padded := pad octets
  (compressAll initial (padded.length / 64) padded).octets

end CertWire.Sha256

import Switchboard.Text.Quoted

namespace Switchboard
namespace Digest

/-!
The digest of bytes: the 256 bit member of the second family of secure hash algorithms.

The bytes are filled up to whole blocks of 64, the last eight of which give the length in bits.
Every block is stirred into a state of eight words in 64 rounds.
-/

/-- The constants of the rounds: the first 32 bits of the fractions of the cube roots of the first
64 primes. -/
def roundConstants : List UInt32 :=
  [0x428a2f98, 0x71374491, 0xb5c0fbcf, 0xe9b5dba5, 0x3956c25b, 0x59f111f1, 0x923f82a4, 0xab1c5ed5,
   0xd807aa98, 0x12835b01, 0x243185be, 0x550c7dc3, 0x72be5d74, 0x80deb1fe, 0x9bdc06a7, 0xc19bf174,
   0xe49b69c1, 0xefbe4786, 0x0fc19dc6, 0x240ca1cc, 0x2de92c6f, 0x4a7484aa, 0x5cb0a9dc, 0x76f988da,
   0x983e5152, 0xa831c66d, 0xb00327c8, 0xbf597fc7, 0xc6e00bf3, 0xd5a79147, 0x06ca6351, 0x14292967,
   0x27b70a85, 0x2e1b2138, 0x4d2c6dfc, 0x53380d13, 0x650a7354, 0x766a0abb, 0x81c2c92e, 0x92722c85,
   0xa2bfe8a1, 0xa81a664b, 0xc24b8b70, 0xc76c51a3, 0xd192e819, 0xd6990624, 0xf40e3585, 0x106aa070,
   0x19a4c116, 0x1e376c08, 0x2748774c, 0x34b0bcb5, 0x391c0cb3, 0x4ed8aa4a, 0x5b9cca4f, 0x682e6ff3,
   0x748f82ee, 0x78a5636f, 0x84c87814, 0x8cc70208, 0x90befffa, 0xa4506ceb, 0xbef9a3f7, 0xc67178f2]

/-- The eight words that blocks are stirred into. -/
structure State where
  a : UInt32
  b : UInt32
  c : UInt32
  d : UInt32
  e : UInt32
  f : UInt32
  g : UInt32
  h : UInt32

/-- The state before the first block: the first 32 bits of the fractions of the square roots of the
first eight primes. -/
def start : State :=
  ⟨0x6a09e667, 0xbb67ae85, 0x3c6ef372, 0xa54ff53a, 0x510e527f, 0x9b05688c, 0x1f83d9ab, 0x5be0cd19⟩

/-- A word turned to the right by a count of bits between one and 31. -/
def turn (count : UInt32) (word : UInt32) : UInt32 := (word >>> count) ||| (word <<< (32 - count))

/-- The next word of a schedule whose last sixteen words are given, the latest one first. -/
def nextWord (latest : List UInt32) : UInt32 :=
  let near := latest.getD 1 0
  let far := latest.getD 14 0
  let mixNear := turn 17 near ^^^ turn 19 near ^^^ (near >>> 10)
  let mixFar := turn 7 far ^^^ turn 18 far ^^^ (far >>> 3)
  mixNear + latest.getD 6 0 + mixFar + latest.getD 15 0

/-- A schedule with a count of further words, the latest one first. -/
def extend : Nat -> List UInt32 -> List UInt32
  | 0, words => words
  | count + 1, words => extend count (nextWord words :: words)

/-- One round. -/
def round (state : State) (constantAndWord : UInt32 × UInt32) : State :=
  let mixE := turn 6 state.e ^^^ turn 11 state.e ^^^ turn 25 state.e
  let choice := (state.e &&& state.f) ^^^ (~~~state.e &&& state.g)
  let first := state.h + mixE + choice + constantAndWord.1 + constantAndWord.2
  let mixA := turn 2 state.a ^^^ turn 13 state.a ^^^ turn 22 state.a
  let majority := (state.a &&& state.b) ^^^ (state.a &&& state.c) ^^^ (state.b &&& state.c)
  ⟨first + mixA + majority, state.a, state.b, state.c, state.d + first, state.e, state.f, state.g⟩

/-- The words of bytes, four to a word. -/
def wordsOf : List UInt8 -> List UInt32
  | a :: b :: c :: d :: rest =>
      ((a.toUInt32 <<< 24) ||| (b.toUInt32 <<< 16) ||| (c.toUInt32 <<< 8) ||| d.toUInt32)
        :: wordsOf rest
  | _ => []

/-- A state with a block of sixteen words stirred in. -/
def stir (state : State) (block : List UInt32) : State :=
  let schedule := (extend 48 block.reverse).reverse
  let after := (roundConstants.zip schedule).foldl round state
  ⟨state.a + after.a, state.b + after.b, state.c + after.c, state.d + after.d,
   state.e + after.e, state.f + after.f, state.g + after.g, state.h + after.h⟩

/-- A state with a count of blocks stirred in. -/
def stirAll : Nat -> State -> List UInt32 -> State
  | 0, state, _ => state
  | count + 1, state, words => stirAll count (stir state (words.take 16)) (words.drop 16)

/-- The eight bytes of a number. -/
def lengthBytes (number : Nat) : List UInt8 :=
  [56, 48, 40, 32, 24, 16, 8, 0].map fun shift => UInt8.ofNat (number >>> shift)

/-- Bytes filled up to whole blocks. -/
def padded (bytes : List UInt8) : List UInt8 :=
  let zeros := (119 - bytes.length % 64) % 64
  bytes ++ 0x80 :: List.replicate zeros 0 ++ lengthBytes (8 * bytes.length)

/-- The words of a state. -/
def State.words (state : State) : List UInt32 :=
  [state.a, state.b, state.c, state.d, state.e, state.f, state.g, state.h]

/-- The digest of bytes, in hexadecimal digits. -/
def ofBytes (bytes : List UInt8) : Text :=
  let words := wordsOf (padded bytes)
  (stirAll (words.length / 16) start words).words.flatMap fun word => Text.hexDigits 8 word.toNat

end Digest
end Switchboard

/-!
# SHA-256

The secure hash algorithm with 256 bits of digest, on lists of bytes. The message is padded with
a one bit, zeros and its length in bits to whole blocks of sixteen words; each block is expanded
to sixty-four words and mixed into the eight words of the state.

A word is a natural number below `wordCount`, and sums of words are taken modulo `wordCount`. So the
digest of a closed message can be evaluated inside a proof, where numbers are computed fast.
-/

namespace OptionCompiler

-- A power is the one of its own number type, however many monoids a module knows about.
attribute [instance (high), default_instance 20000] instPowNat

namespace Sha256

/-- The eight words of the state. -/
structure State where
  a : Nat
  b : Nat
  c : Nat
  d : Nat
  e : Nat
  f : Nat
  g : Nat
  h : Nat
deriving DecidableEq, Repr

/-- The state before the first block: the fractions of the square roots of the first eight
primes. -/
def initial : State :=
  ⟨0x6a09e667, 0xbb67ae85, 0x3c6ef372, 0xa54ff53a, 0x510e527f, 0x9b05688c, 0x1f83d9ab,
    0x5be0cd19⟩

/-- The round constants: the fractions of the cube roots of the first sixty-four primes. -/
def constants : List Nat :=
  [0x428a2f98, 0x71374491, 0xb5c0fbcf, 0xe9b5dba5, 0x3956c25b, 0x59f111f1, 0x923f82a4, 0xab1c5ed5,
    0xd807aa98, 0x12835b01, 0x243185be, 0x550c7dc3, 0x72be5d74, 0x80deb1fe, 0x9bdc06a7, 0xc19bf174,
    0xe49b69c1, 0xefbe4786, 0x0fc19dc6, 0x240ca1cc, 0x2de92c6f, 0x4a7484aa, 0x5cb0a9dc, 0x76f988da,
    0x983e5152, 0xa831c66d, 0xb00327c8, 0xbf597fc7, 0xc6e00bf3, 0xd5a79147, 0x06ca6351, 0x14292967,
    0x27b70a85, 0x2e1b2138, 0x4d2c6dfc, 0x53380d13, 0x650a7354, 0x766a0abb, 0x81c2c92e, 0x92722c85,
    0xa2bfe8a1, 0xa81a664b, 0xc24b8b70, 0xc76c51a3, 0xd192e819, 0xd6990624, 0xf40e3585, 0x106aa070,
    0x19a4c116, 0x1e376c08, 0x2748774c, 0x34b0bcb5, 0x391c0cb3, 0x4ed8aa4a, 0x5b9cca4f, 0x682e6ff3,
    0x748f82ee, 0x78a5636f, 0x84c87814, 0x8cc70208, 0x90befffa, 0xa4506ceb, 0xbef9a3f7, 0xc67178f2]

/-- How many words of thirty-two bits there are. -/
def wordCount : Nat := 0x100000000

/-- A word twice in a row. The rotations of the word are the lower halves of its shifts. -/
def twice (word : Nat) : Nat :=
  word * 0x100000001

/-- The next word of the schedule, from the sixteen before it, the latest one first. -/
def nextWord (window : List Nat) : Nat :=
  let early := window.getD 14 0
  let late := window.getD 1 0
  let sigma0 := (twice early >>> 7 ^^^ twice early >>> 18) % wordCount ^^^ early >>> 3
  let sigma1 := (twice late >>> 17 ^^^ twice late >>> 19) % wordCount ^^^ late >>> 10
  (window.getD 15 0 + sigma0 + window.getD 6 0 + sigma1) % wordCount

/-- Extends a schedule, the latest word first, by `count` words. -/
def extend (schedule : List Nat) : Nat → List Nat
  | 0 => schedule
  | count + 1 => extend (nextWord schedule :: schedule) count

/-- One round with the sum of its word and its constant. -/
def round (state : State) (input : Nat) : State :=
  let sum1 :=
    (twice state.e >>> 6 ^^^ twice state.e >>> 11 ^^^ twice state.e >>> 25) % wordCount
  let choice := (state.e &&& state.f) ^^^ ((wordCount - 1 - state.e) &&& state.g)
  let first := state.h + sum1 + choice + input
  let sum0 :=
    (twice state.a >>> 2 ^^^ twice state.a >>> 13 ^^^ twice state.a >>> 22) % wordCount
  let majority := (state.a &&& state.b) ^^^ (state.a &&& state.c) ^^^ (state.b &&& state.c)
  ⟨(first + sum0 + majority) % wordCount, state.a, state.b, state.c,
    (state.d + first) % wordCount, state.e, state.f, state.g⟩

/-- The sum of two states, word by word. -/
def State.add (left right : State) : State :=
  let sum (word other : Nat) : Nat := (word + other) % wordCount
  ⟨sum left.a right.a, sum left.b right.b, sum left.c right.c, sum left.d right.d,
    sum left.e right.e, sum left.f right.f, sum left.g right.g, sum left.h right.h⟩

/-- Mixes one block of sixteen words into the state. -/
def compress (state : State) (block : List Nat) : State :=
  let schedule := (extend block.reverse 48).reverse
  state.add ((schedule.zipWith (· + ·) constants).foldl round state)

/-- The words of a list of bytes, four bytes each, the most significant first. -/
def words : List UInt8 → List Nat
  | a :: b :: c :: d :: rest =>
      (((a.toNat * 256 + b.toNat) * 256 + c.toNat) * 256 + d.toNat) :: words rest
  | _ => []

/-- The bytes of a number, the most significant first. -/
def bigEndian (value : Nat) : Nat → List UInt8
  | 0 => []
  | count + 1 => UInt8.ofNat (value / 256 ^ count) :: bigEndian value count

def padded (message : List UInt8) : List UInt8 :=
  let zeros := (119 - message.length % 64) % 64
  message ++ 0x80 :: (List.replicate zeros 0 ++ bigEndian (8 * message.length) 8)

/-- Mixes all whole blocks of the words into the state, where `count` blocks are left. -/
def absorb (state : State) (message : List Nat) : Nat → State
  | 0 => state
  | count + 1 => absorb (compress state (message.take 16)) (message.drop 16) count

/-- The digest of a message, as words. -/
def digest (message : List UInt8) : State :=
  let blocks := words (padded message)
  absorb initial blocks (blocks.length / 16)

/-- The eight hexadecimal digits of a word. -/
def wordDigits (word : Nat) : List Char :=
  (List.range 8).map fun place => Nat.digitChar (word / 16 ^ (7 - place) % 16)

/-- The digest of a message in hexadecimal digits. -/
def hexadecimal (message : List UInt8) : String :=
  let state := digest message
  String.ofList ([state.a, state.b, state.c, state.d, state.e, state.f, state.g, state.h].flatMap
    wordDigits)

end Sha256

end OptionCompiler

/-!
# SHA-256

The digest of a byte sequence by the secure hash standard: the message is padded to
whole blocks of sixty-four bytes, each block is expanded into sixty-four words, and
sixty-four rounds mix the words into a chaining state of eight words. Words are
32-bit and wrap, which is what the standard asks for.

The digest is a list of bytes, and there are always thirty-two of them, because the
state has eight words and each word gives four bytes.
-/

namespace Syndication.Sha256

/-- The round constants: fractional parts of the cube roots of the first primes. -/
def roundConstants : List UInt32 := [
  0x428a2f98, 0x71374491, 0xb5c0fbcf, 0xe9b5dba5, 0x3956c25b, 0x59f111f1,
  0x923f82a4, 0xab1c5ed5, 0xd807aa98, 0x12835b01, 0x243185be, 0x550c7dc3,
  0x72be5d74, 0x80deb1fe, 0x9bdc06a7, 0xc19bf174, 0xe49b69c1, 0xefbe4786,
  0x0fc19dc6, 0x240ca1cc, 0x2de92c6f, 0x4a7484aa, 0x5cb0a9dc, 0x76f988da,
  0x983e5152, 0xa831c66d, 0xb00327c8, 0xbf597fc7, 0xc6e00bf3, 0xd5a79147,
  0x06ca6351, 0x14292967, 0x27b70a85, 0x2e1b2138, 0x4d2c6dfc, 0x53380d13,
  0x650a7354, 0x766a0abb, 0x81c2c92e, 0x92722c85, 0xa2bfe8a1, 0xa81a664b,
  0xc24b8b70, 0xc76c51a3, 0xd192e819, 0xd6990624, 0xf40e3585, 0x106aa070,
  0x19a4c116, 0x1e376c08, 0x2748774c, 0x34b0bcb5, 0x391c0cb3, 0x4ed8aa4a,
  0x5b9cca4f, 0x682e6ff3, 0x748f82ee, 0x78a5636f, 0x84c87814, 0x8cc70208,
  0x90befffa, 0xa4506ceb, 0xbef9a3f7, 0xc67178f2]

/-- The chaining state. -/
structure State where
  a : UInt32
  b : UInt32
  c : UInt32
  d : UInt32
  e : UInt32
  f : UInt32
  g : UInt32
  h : UInt32
  deriving DecidableEq, Repr

/-- The state before the first block. -/
def initial : State :=
  ⟨0x6a09e667, 0xbb67ae85, 0x3c6ef372, 0xa54ff53a, 0x510e527f, 0x9b05688c, 0x1f83d9ab, 0x5be0cd19⟩

/-- Rotation of a word to the right by less than its width. -/
def rotateRight (word : UInt32) (amount : UInt32) : UInt32 :=
  (word >>> amount) ||| (word <<< (32 - amount))

/-- The four bytes of a word, the most significant first. -/
def wordBytes (word : UInt32) : List UInt8 :=
  [(word >>> 24).toUInt8, (word >>> 16).toUInt8, (word >>> 8).toUInt8, word.toUInt8]

/-- Bytes gathered four at a time into words, the most significant first. A remainder of
fewer than four bytes does not occur in a padded message. -/
def bytesWords : List UInt8 → List UInt32
  | a :: b :: c :: d :: rest =>
    ((a.toUInt32 <<< 24) ||| (b.toUInt32 <<< 16) ||| (c.toUInt32 <<< 8) ||| d.toUInt32)
      :: bytesWords rest
  | _ => []

/-- A length of at most eight bytes, the most significant byte first. -/
def lengthBytes (bits : Nat) : List UInt8 :=
  (List.range 8).map fun position => UInt8.ofNat (bits / Nat.pow 2 (8 * (7 - position)))

/-- The message followed by a one bit, the fewest zeros that complete a block, and the
length of the message in bits. -/
def pad (message : List UInt8) : List UInt8 :=
  message ++ 0x80 :: List.replicate ((119 - message.length % 64) % 64) 0 ++
    lengthBytes (8 * message.length)

/-- One word of the schedule from the words before it, the latest first. -/
def scheduleWord (latest : List UInt32) : UInt32 :=
  let two := latest.getD 1 0
  let fifteen := latest.getD 14 0
  let sigmaOne := rotateRight two 17 ^^^ rotateRight two 19 ^^^ (two >>> 10)
  let sigmaZero := rotateRight fifteen 7 ^^^ rotateRight fifteen 18 ^^^ (fifteen >>> 3)
  sigmaOne + latest.getD 6 0 + sigmaZero + latest.getD 15 0

/-- Extends a schedule, the latest word first, by a number of words. -/
def extend : Nat → List UInt32 → List UInt32
  | 0, latest => latest
  | count + 1, latest => extend count (scheduleWord latest :: latest)

/-- The sixty-four words of a block. -/
def schedule (block : List UInt32) : List UInt32 := (extend 48 block.reverse).reverse

/-- One round: a constant and a word are mixed into the state. -/
def round (state : State) (constant word : UInt32) : State :=
  let sumOne := rotateRight state.e 6 ^^^ rotateRight state.e 11 ^^^ rotateRight state.e 25
  let choice := (state.e &&& state.f) ^^^ ((~~~ state.e) &&& state.g)
  let first := state.h + sumOne + choice + constant + word
  let sumZero := rotateRight state.a 2 ^^^ rotateRight state.a 13 ^^^ rotateRight state.a 22
  let majority := (state.a &&& state.b) ^^^ (state.a &&& state.c) ^^^ (state.b &&& state.c)
  ⟨first + sumZero + majority, state.a, state.b, state.c,
    state.d + first, state.e, state.f, state.g⟩

/-- The state after a block of sixteen words. -/
def compress (state : State) (block : List UInt32) : State :=
  let mixed := (roundConstants.zip (schedule block)).foldl
    (fun state pair => round state pair.1 pair.2) state
  ⟨state.a + mixed.a, state.b + mixed.b, state.c + mixed.c, state.d + mixed.d,
    state.e + mixed.e, state.f + mixed.f, state.g + mixed.g, state.h + mixed.h⟩

/-- The state after a number of blocks of sixteen words. -/
def compressBlocks : Nat → State → List UInt32 → State
  | 0, state, _ => state
  | count + 1, state, words =>
    compressBlocks count (compress state (words.take 16)) (words.drop 16)

/-- The words of a state in order. -/
def State.words (state : State) : List UInt32 :=
  [state.a, state.b, state.c, state.d, state.e, state.f, state.g, state.h]

/-- The digest of a byte sequence. -/
def digest (message : List UInt8) : List UInt8 :=
  let words := bytesWords (pad message)
  (compressBlocks (words.length / 16) initial words).words.flatMap wordBytes

/-- Every digest has thirty-two bytes: the state has eight words of four bytes each. -/
theorem digest_length (message : List UInt8) : (digest message).length = 32 := by
  simp [digest, State.words, wordBytes]

end Syndication.Sha256

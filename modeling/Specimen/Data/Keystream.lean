/-!
# The keystream of random words

An endless sequence of 32-bit words that a seed of 64 bits determines: the seed is stretched to a
key of eight words, and the keystream of ChaCha with twelve rounds is computed from it, with a
counter of 64 bits that begins at zero and with a nonce of zero. A word is a function of the key and
its position, so nothing here has state.
-/

namespace Specimen.Data.Keystream

/-- Sixteen words, in rows of four. -/
abbrev Block := Vector UInt32 16

/-- Eight words. -/
abbrev Key := Vector UInt32 8

/-- Rotation of a word to the left. -/
def rotateLeft (x : UInt32) (n : UInt32) : UInt32 := (x <<< n) ||| (x >>> (32 - n))

/-- Rotation of a word to the right, by the given amount modulo 32. -/
def rotateRight (x : UInt32) (n : UInt32) : UInt32 := (x >>> n) ||| (x <<< (32 - n))

/-- Mixes the four words at the given places. -/
def quarterRound (s : Block) (a b c d : Fin 16) : Block :=
  let s := s.set a (s[a] + s[b])
  let s := s.set d (rotateLeft (s[d] ^^^ s[a]) 16)
  let s := s.set c (s[c] + s[d])
  let s := s.set b (rotateLeft (s[b] ^^^ s[c]) 12)
  let s := s.set a (s[a] + s[b])
  let s := s.set d (rotateLeft (s[d] ^^^ s[a]) 8)
  let s := s.set c (s[c] + s[d])
  s.set b (rotateLeft (s[b] ^^^ s[c]) 7)

/-- Two rounds: the four columns and then the four diagonals are mixed. -/
def doubleRound (s : Block) : Block :=
  let s := quarterRound s 0 4 8 12
  let s := quarterRound s 1 5 9 13
  let s := quarterRound s 2 6 10 14
  let s := quarterRound s 3 7 11 15
  let s := quarterRound s 0 5 10 15
  let s := quarterRound s 1 6 11 12
  let s := quarterRound s 2 7 8 13
  quarterRound s 3 4 9 14

/-- The given number of double rounds. -/
def rounds : Nat → Block → Block
  | 0, s => s
  | n + 1, s => rounds n (doubleRound s)

/-- The state that a block is computed from: four constants, the key, the counter, the nonce. -/
def initial (key : Key) (counter : UInt64) : Block :=
  #v[0x61707865, 0x3320646e, 0x79622d32, 0x6b206574,
    key[0], key[1], key[2], key[3], key[4], key[5], key[6], key[7],
    counter.toUInt32, (counter >>> 32).toUInt32, 0, 0]

/-- The block with the given number. -/
def block (key : Key) (counter : UInt64) : Block :=
  let s := initial key counter
  Vector.zipWith (· + ·) s (rounds 6 s)

/-- The word at the given position of the keystream. -/
def word (key : Key) (position : Nat) : UInt32 :=
  (block key (UInt64.ofNat (position / 16)))[position % 16]

/-- One step of the generator that stretches a seed. -/
def stretch (s : UInt64) : UInt64 := s * 6364136223846793005 + 11634580027462260723

/-- The word that a state of the stretching generator gives. -/
def stretched (s : UInt64) : UInt32 :=
  rotateRight (((s >>> 18) ^^^ s) >>> 27).toUInt32 (s >>> 59).toUInt32

/-- The state of the stretching generator after the given number of steps. -/
def stretchedState (seed : UInt64) : Nat → UInt64
  | 0 => seed
  | n + 1 => stretch (stretchedState seed n)

/-- The key of a seed. -/
def key (seed : UInt64) : Key :=
  Vector.ofFn fun i => stretched (stretchedState seed (i.val + 1))

end Specimen.Data.Keystream

import Specimen.Data.Keystream

/-!
# Drawing random values

Values are drawn from a source of words, which is either the keystream of a seed or a script of
words handed out in a circle. A draw of 32 or 64 bits takes words from the source and moves it on;
everything else is computed from such draws. A number below a bound is the high half of the product
of a random word and the bound; when the low half leaves room for a carry, a second word decides
whether there is one, which makes the bias too small to matter and never exceeds the bound.
-/

namespace Specimen.Data

/-- Where random words come from. -/
inductive Origin where
  /-- The keystream of a key, in words of 32 bits. -/
  | keystream (key : Keystream.Key)
  /-- Words of 64 bits, repeated for ever. A draw of 32 bits uses the low half of one. -/
  | script (words : Array UInt64)

/-- A source of random words, and the number of words drawn from it so far. -/
structure Source where
  origin : Origin
  used : Nat := 0

/-- A computation that draws from a source. -/
abbrev Draw := StateM Source

namespace Source

/-- The source that a seed determines. -/
def ofSeed (seed : UInt64) : Source := { origin := .keystream (Keystream.key seed) }

/-- The source that repeats the given words. -/
def ofScript (words : Array UInt64) : Source := { origin := .script words }

/-- The word of a script at a position. -/
def scriptWord (words : Array UInt64) (position : Nat) : UInt64 :=
  words.getD (position % words.size) 0

/-- Draws 32 bits. -/
def next32 (source : Source) : UInt32 × Source :=
  match source.origin with
  | .keystream key => (Keystream.word key source.used, { source with used := source.used + 1 })
  | .script words =>
    ((scriptWord words source.used).toUInt32, { source with used := source.used + 1 })

/-- Draws 64 bits; from a keystream, the low half first. -/
def next64 (source : Source) : UInt64 × Source :=
  match source.origin with
  | .keystream key =>
    let low := Keystream.word key source.used
    let high := Keystream.word key (source.used + 1)
    (high.toUInt64 <<< 32 ||| low.toUInt64, { source with used := source.used + 2 })
  | .script words => (scriptWord words source.used, { source with used := source.used + 1 })

end Source

namespace Draw

/-- How many bits a bounded number is drawn with. -/
inductive Width where
  | narrow
  | wide
  deriving DecidableEq, Repr

/-- The number of values a word of the width has. -/
def Width.size : Width → Nat
  | .narrow => Nat.pow 2 32
  | .wide => Nat.pow 2 64

/-- A word of 32 bits. -/
def bits32 : Draw UInt32 := fun source => source.next32

/-- A word of 64 bits. -/
def bits64 : Draw UInt64 := fun source => source.next64

/-- A word of the given width, as a number. -/
def word : Width → Draw Nat
  | .narrow => do return (← bits32).toNat
  | .wide => do return (← bits64).toNat

/-- A number below `bound`, drawn with words of the given width. -/
def below (width : Width) (bound : Nat) : Draw Nat := do
  let x ← word width
  let high := x * bound / width.size
  let low := x * bound % width.size
  if low > width.size - bound then
    let y ← word width
    if low + y * bound / width.size ≥ width.size then return high + 1 else return high
  else return high

/-- A number from `first` to `last`, both included. -/
def between (width : Width) (first last : Nat) : Draw Nat := do
  return first + (← below width (last - first + 1))

/-- A number below 256: a bound that takes in all values of a byte needs no product, and the low
byte of a word is the number. -/
def byte : Draw Nat := do return (← bits32).toNat % 256

/-- One element of a list, or `fallback` if the list is empty. -/
def choose {α : Type} (fallback : α) (items : List α) : Draw α := do
  return items.getD (← below .narrow items.length) fallback

/-- The given number of draws, one after the other. -/
def repeated {α : Type} (draw : Draw α) : Nat → Draw (List α)
  | 0 => return []
  | n + 1 => do
    let x ← draw
    let xs ← repeated draw n
    return x :: xs

/-- The byte of a word with the given number, the lowest being the first. -/
def byteOf (w : UInt32) (i : Nat) : UInt8 := (w >>> UInt32.ofNat (8 * i)).toUInt8

/-- The given number of bytes, taken from the fewest words that hold them. -/
def bytes (n : Nat) : Draw (Vector UInt8 n) := do
  let words ← repeated bits32 ((n + 3) / 4)
  return Vector.ofFn fun i => byteOf (words.getD (i.val / 4) 0) (i.val % 4)

/-- A fraction from zero to one, one excluded, in steps of `2 ^ (-52)`. -/
def fraction64 : Draw Float := do
  return ((← bits64) >>> 12).toFloat * (1.0 / 4503599627370496.0)

/-- A fraction from zero to one, one excluded, in steps of `2 ^ (-23)`. -/
def fraction32 : Draw Float32 := do
  return ((← bits32) >>> 9).toFloat32 * (1.0 / 8388608.0)

/-- A truth value, both being as likely. -/
def coin : Draw Bool := do return decide ((← bits64) < 0x8000000000000000)

end Draw

end Specimen.Data

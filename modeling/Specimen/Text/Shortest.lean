import Specimen.Text.Numeral

/-!
# The shortest decimal of a floating-point number

A floating-point number is written with the fewest digits that read back as the same number; of two
decimals with that many digits the nearer one is taken. The number is an integer times a power of two,
and the numbers that round to it form an interval, to which the ends belong if the integer is even. All
of this is decided in whole numbers: for one digit, two digits and so on, the two neighbours of the
number on the grid of decimals with that many digits are tried.

The text has no exponent, and a point with at least one digit behind it.
-/

namespace Specimen.Text

/-- A finite number without its sign: `m` times the `q`-th power of two. -/
structure Binary where
  m : Nat
  q : Int
  /-- Whether the next smaller number is only half as far away as the next greater one. -/
  narrow : Bool
  deriving DecidableEq, Repr

/-- The number with the given bits. -/
def Binary.ofBits (bits : Nat) : Binary :=
  let fraction := bits % Nat.pow 2 52
  let exponent : Nat := bits / Nat.pow 2 52 % Nat.pow 2 11
  if exponent = 0 then ⟨fraction, -1074, false⟩
  else ⟨fraction + Nat.pow 2 52, (exponent : Int) - 1075, fraction == 0 && 1 < exponent⟩

/-- A quotient of whole numbers. -/
structure Ratio where
  num : Nat
  den : Nat

/-- A quarter of the last place of a number, counted in the `k`-th power of ten. -/
def Binary.quarter (x : Binary) (k : Int) : Ratio :=
  let e := x.q - 2
  ⟨Nat.pow 2 e.toNat * Nat.pow 10 (-k).toNat, Nat.pow 2 (-e).toNat * Nat.pow 10 k.toNat⟩

/-- Whether `c` times the `k`-th power of ten rounds to a number. -/
def Binary.accepts (x : Binary) (k : Int) (c : Nat) : Bool :=
  let unit := x.quarter k
  let low := (4 * x.m - if x.narrow then 1 else 2) * unit.num
  let high := (4 * x.m + 2) * unit.num
  let value := c * unit.den
  if x.m % 2 = 0 then low ≤ value && value ≤ high else low < value && value < high

/-- The neighbour of a number on the grid of the `k`-th power of ten that rounds to it, the nearer
one if both do. -/
def Binary.onGrid? (x : Binary) (k : Int) : Option Nat :=
  let unit := x.quarter k
  let value := 4 * x.m * unit.num
  let below := value / unit.den
  let above := below + 1
  match x.accepts k below && 0 < below, x.accepts k above with
  | true, true =>
    if value - below * unit.den ≤ above * unit.den - value then some below else some above
  | true, false => some below
  | false, true => some above
  | false, false => none

/-- Counts up from `j` to the first power of ten that takes the number to one or beyond. -/
def Binary.scale (x : Binary) : (fuel : Nat) → (j : Nat) → Nat
  | 0, j => j
  | fuel + 1, j =>
    let unit := x.quarter (-(j : Int))
    if unit.den ≤ 4 * x.m * unit.num then j else scale x fuel (j + 1)

/-- The number of digits before the point; below one, less one for every zero behind it. -/
def Binary.size (x : Binary) : Int :=
  let unit := x.quarter 0
  let whole := 4 * x.m * unit.num / unit.den
  if 0 < whole then ((decimal whole).length : Int) else 1 - (x.scale 400 1 : Int)

/-- The first grid with a hit, trying `digits` digits and more. -/
def Binary.search (x : Binary) : (fuel : Nat) → (digits : Nat) → Nat × Int
  | 0, _ => (0, 0)
  | fuel + 1, digits =>
    let k := x.size - digits
    match x.onGrid? k with
    | some c => (c, k)
    | none => search x fuel (digits + 1)

/-- The shortest decimal: digits, and the power of ten that they count. -/
def Binary.shortest (x : Binary) : Nat × Int :=
  if x.m = 0 then (0, 0) else x.search 18 1

/-- Drops zeros at the end, but not the first digit. -/
def dropZeros (ds : List Char) : List Char :=
  match (ds.reverse.dropWhile (· == '0')).reverse with
  | [] => ['0']
  | ds => ds

/-- A decimal in digits with a point. -/
def positional (c : Nat) (k : Int) : List Char :=
  let ds := decimal c
  if 0 ≤ k then ds ++ List.replicate k.toNat '0' ++ ['.', '0']
  else
    let places := (-k).toNat
    let ds := List.replicate (places + 1 - ds.length) '0' ++ ds
    ds.take (ds.length - places) ++ '.' :: dropZeros (ds.drop (ds.length - places))

/-- The text of a finite number without its sign. -/
def magnitudeText (x : Float) : String :=
  let (c, k) := (Binary.ofBits (x.toBits.toNat % Nat.pow 2 63)).shortest
  String.ofList (positional c k)

/-- Whether a number has a minus sign. -/
def isNegative (x : Float) : Bool := Nat.pow 2 63 ≤ x.toBits.toNat

end Specimen.Text

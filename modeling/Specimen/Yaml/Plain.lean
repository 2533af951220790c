import Specimen.Text.Numeral
import Specimen.Text.Split

/-!
# Scalars without quotes

A scalar that is written without quotes may stand for something else than a text. It stands for
nothing if it is empty, `~` or `null` in one of three spellings, for a truth value if it is `true` or
`false` in one of three spellings, for a whole number if it is one in decimal without leading zeros
or in base two, eight or sixteen behind its marker, and for a real number if it is a decimal with a
fraction or an exponent that is not too large, an infinity or no number at all. Everything else is a
text.

A whole number that has more digits than 128 bits hold counts as real.
-/

namespace Specimen.Yaml.Plain

open Specimen.Text

/-- What a scalar without quotes stands for. -/
inductive Meaning where
  | null
  | bool (b : Bool)
  | integer (n : Int)
  | real
  | text
  deriving DecidableEq, Repr

/-- The words for nothing. -/
def isNull (s : String) : Bool := ["null", "Null", "NULL", "~"].contains s

/-- The words for truth values. -/
def bool? (s : String) : Option Bool :=
  if ["true", "True", "TRUE"].contains s then some true
  else if ["false", "False", "FALSE"].contains s then some false
  else none

/-! ## Whole numbers -/

/-- Whether a character is a plus or a minus sign. -/
def isSign (c : Char) : Bool := c == '+' || c == '-'

/-- The text without a sign at its front. -/
def dropSign : List Char → List Char
  | c :: cs => if isSign c then cs else c :: cs
  | [] => []

/-- The text without a plus sign at its front. -/
def dropPlus : List Char → List Char
  | '+' :: cs => cs
  | cs => cs

/-- Whether a text is a decimal numeral that begins with a zero and goes on. -/
def isZeroPadded (cs : List Char) : Bool :=
  match dropSign cs with
  | '0' :: d :: ds => (d :: ds).all Char.isDigit
  | _ => false

/-- A numeral in the base that its marker tells. -/
def readMarked? : List Char → Option Nat
  | '0' :: 'x' :: ds => readBase? 16 ds
  | '0' :: 'o' :: ds => readBase? 8 ds
  | '0' :: 'b' :: ds => readBase? 2 ds
  | _ => none

/-- A whole number of any size without a minus sign. -/
def readNatural? (cs : List Char) : Option Nat :=
  (readMarked? (dropPlus cs)).orElse fun _ =>
    if isZeroPadded cs then none else readDecimal? (dropPlus cs)

/-- A whole number of any size. -/
def readWhole? (cs : List Char) : Option Int :=
  match readNatural? cs with
  | some n => some n
  | none =>
    match cs with
    | '-' :: ds =>
      ((readMarked? ds).orElse fun _ => if isZeroPadded cs then none else readDecimal? ds).map
        fun n => -(n : Int)
    | _ => none

/-- A whole number of at least zero that 64 bits hold. -/
def readUnsigned? (cs : List Char) : Option Nat := (readNatural? cs).filter (· < Nat.pow 2 64)

/-- A whole number that 64 bits hold with its sign. -/
def readSigned? (cs : List Char) : Option Int :=
  (readWhole? cs).filter fun n => -(Nat.pow 2 63 : Int) ≤ n && n < Nat.pow 2 63

/-! ## Real numbers -/

/-- A decimal as its digits, read as one whole number, and the power of ten that they count. -/
structure Decimal where
  negative : Bool
  digits : Nat
  exponent : Int
  deriving DecidableEq, Repr

/-- The exponent behind a decimal. -/
def readExponent? : List Char → Option Int
  | [] => some 0
  | c :: cs =>
    if c = 'e' ∨ c = 'E' then
      match cs with
      | '-' :: ds => (readDecimal? ds).map fun n => -(n : Int)
      | ds => (readDecimal? (dropPlus ds)).map fun n => (n : Int)
    else none

/-- The value of decimal digits, which may be none. -/
def digitsValue (ds : List Char) : Nat := (readDigits? 10 0 ds).getD 0

/-- A decimal with at most one sign. There is a digit before the point or after it. -/
def readDecimalPoint? (cs : List Char) : Option Decimal :=
  let body := dropSign cs
  let whole := body.takeWhile Char.isDigit
  let afterWhole := body.dropWhile Char.isDigit
  let (fraction, rest) := match afterWhole with
    | '.' :: more => (more.takeWhile Char.isDigit, more.dropWhile Char.isDigit)
    | _ => ([], afterWhole)
  if whole.isEmpty && fraction.isEmpty then none
  else
    (readExponent? rest).map fun e =>
      ⟨cs.head? == some '-', digitsValue (whole ++ fraction), e - fraction.length⟩

/-- The floating-point number nearest to a decimal. -/
def Decimal.toFloat (d : Decimal) : Float :=
  let size := (decimal d.digits).length + d.exponent
  let magnitude :=
    if d.digits = 0 ∨ size < -400 then 0.0
    else if size > 400 then Float.ofBits 0x7FF0000000000000
    else if d.exponent < 0 then Float.ofScientific d.digits true (-d.exponent).toNat
    else Float.ofScientific d.digits false d.exponent.toNat
  if d.negative then -magnitude else magnitude

/-- Infinity, with an optional sign. -/
def isInfinity (cs : List Char) : Bool :=
  [".inf", ".Inf", ".INF"].contains (String.ofList (dropSign cs))

/-- What is no number. -/
def isNaN (cs : List Char) : Bool :=
  [".nan", ".NaN", ".NAN"].contains (String.ofList cs)

/-- The floating-point number that a real number stands for. -/
def readReal? (cs : List Char) : Option Float :=
  if isInfinity cs then
    some (if cs.head? == some '-' then Float.ofBits 0xFFF0000000000000
      else Float.ofBits 0x7FF0000000000000)
  else if isNaN cs then some (Float.ofBits 0x7FF8000000000000)
  else
    ((readDecimalPoint? cs).map Decimal.toFloat).filter fun x => x.isFinite

/-! ## All together -/

/-- What a scalar without quotes stands for. -/
def meaning (s : String) : Meaning :=
  let cs := s.toList
  if s.isEmpty || isNull s then .null
  else
    match bool? s with
    | some b => .bool b
    | none =>
      match (readWhole? cs).filter fun n => -(Nat.pow 2 127 : Int) ≤ n && n < Nat.pow 2 128 with
      | some n => .integer n
      | none => if !isZeroPadded cs && (readReal? cs).isSome then .real else .text

/-- Whether a text would be taken for something else if it were written without quotes. Truth values
and the word for nothing count in any mixture of small and capital letters, and so do decimals with
leading zeros, for the sake of readers that are more generous. -/
def isAmbiguous (s : String) : Bool :=
  let small := String.ofList (s.toList.map Char.toLower)
  meaning s != .text || (bool? small).isSome || isNull small || isZeroPadded s.toList

end Specimen.Yaml.Plain

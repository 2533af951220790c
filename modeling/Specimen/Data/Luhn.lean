/-!
# Luhn check digits

Card numbers end in a digit computed from the others: going from right to left, every second digit
of the payload, beginning with its last, is doubled and reduced by nine if it has become greater
than nine, and the check digit fills the sum up to a multiple of ten. A number is valid if it has
two digits or more and ends in the check digit of the rest.
-/

namespace Specimen.Data.Luhn

/-- A digit doubled, and reduced by nine above nine. -/
def doubled (d : Nat) : Nat := if 2 * d > 9 then 2 * d - 9 else 2 * d

/-- The weighted sum of digits that are given from the last to the first; `double` tells whether
the first of them counts twice. -/
def weightedSum : (double : Bool) → List Nat → Nat
  | _, [] => 0
  | true, d :: ds => doubled d + weightedSum false ds
  | false, d :: ds => d + weightedSum true ds

/-- The digit that makes the payload followed by it valid. -/
def checkDigit (payload : List Nat) : Nat := (10 - weightedSum true payload.reverse % 10) % 10

/-- The value of an ASCII digit. -/
def digit? (c : Char) : Option Nat := if c.isDigit then some (c.toNat - '0'.toNat) else none

/-- The digits of a text that has nothing else. -/
def digits? : List Char → Option (List Nat)
  | [] => some []
  | c :: cs =>
    match digit? c, digits? cs with
    | some d, some ds => some (d :: ds)
    | _, _ => none

/-- Whether a list of digits ends in the check digit of a payload that is not empty. -/
def isValidDigits (ds : List Nat) : Bool :=
  match ds.getLast? with
  | none => false
  | some check => !ds.dropLast.isEmpty && checkDigit ds.dropLast == check

/-- Whether a text is a valid number. -/
def isValid (number : String) : Bool :=
  match digits? number.toList with
  | none => false
  | some ds => isValidDigits ds

end Specimen.Data.Luhn

import Specimen.Category
import Specimen.Text.Blank
import Specimen.Text.Numeral
import Specimen.Text.Split

/-!
# Reading category tokens

A token is read without the blanks around it. Nine text categories, the price and the address are
plain words, some of them with a second spelling; an image carries its size, as in
`image(width:64,height:32)`, with blanks allowed between all its parts. A text that does not begin
with `image` and is no plain word names no category; one that does is an image with a fault, and the
fault that comes first is reported.
-/

namespace Specimen.Category

open Specimen.Text

/-- What is wrong with the arguments of an image. -/
inductive ImageFault where
  /-- There is no pair of parentheses around them. -/
  | noArguments
  /-- An argument is not there. -/
  | missing (label : String)
  /-- An argument has no colon. -/
  | noColon (label : String)
  /-- An argument has another label than the one due at its place. -/
  | otherLabel (label found : String)
  /-- The value of an argument is not a number of 32 bits. -/
  | notANumber (label found : String)
  /-- There is a third argument. -/
  | extraArgument
  deriving DecidableEq, Repr

namespace ImageFault

/-- The wording of a fault. -/
def message : ImageFault → String
  | .noArguments => "expected '(width:W,height:H)'"
  | .missing label => s!"missing '{label}'"
  | .noColon label => s!"expected '{label}:<pixels>'"
  | .otherLabel label found => s!"expected '{label}', found '{found}'"
  | .notANumber label found => s!"'{found}' is not a valid {label}"
  | .extraArgument => "unexpected extra argument"

end ImageFault

/-- Why a text is not a category token. -/
inductive ReadError where
  /-- The text names no category. -/
  | unknown (token : String)
  /-- The text begins like an image and is none. -/
  | invalidImage (token : String) (fault : ImageFault)
  deriving DecidableEq, Repr

/-- The wording of an error. -/
def ReadError.message : ReadError → String
  | .unknown token => s!"unknown category '{token}'"
  | .invalidImage token fault => s!"invalid image category '{token}': {fault.message}"

/-- The plain words, first the token that is written and then a second spelling. -/
def ofWord? (word : String) : Option Category :=
  match word with
  | "firstName" | "first_name" => some .firstName
  | "lastName" | "last_name" => some .lastName
  | "fullName" | "full_name" => some .fullName
  | "email" => some .email
  | "address" => some .address
  | "appVersion" | "app_version" => some .appVersion
  | "creditCardNumber" | "credit_card_number" => some .creditCardNumber
  | "companyName" | "company_name" => some .companyName
  | "username" | "user_name" => some .username
  | "price" => some .price
  | "url" => some .url
  | _ => none

/-- Reads one argument of an image: its label, a colon and a number of 32 bits. -/
def readSide (label : String) (part? : Option (List Char)) : Except ImageFault UInt32 :=
  match part? with
  | none => .error (.missing label)
  | some part =>
    match splitFirst? [':'] part with
    | none => .error (.noColon label)
    | some (name, value) =>
      if trim name ≠ label.toList then .error (.otherLabel label (String.ofList (trim name)))
      else
        match readBounded? (UInt32.size - 1) (trim value) with
        | none => .error (.notANumber label (String.ofList (trim value)))
        | some n => .ok (UInt32.ofNat n)

/-- Reads what follows the word `image`. -/
def readImage (rest : List Char) : Except ImageFault Category :=
  match (dropFront? ['('] (trim rest)).bind (dropBack? [')']) with
  | none => .error .noArguments
  | some inner =>
    let parts := inner.splitOn ','
    match readSide "width" parts[0]? with
    | .error fault => .error fault
    | .ok width =>
      match readSide "height" parts[1]? with
      | .error fault => .error fault
      | .ok height =>
        if parts.length ≤ 2 then .ok (.image width height) else .error .extraArgument

/-- Reads a category token. -/
def read (text : String) : Except ReadError Category :=
  let token := trimmed text
  match ofWord? token with
  | some category => .ok category
  | none =>
    match dropFront? "image".toList token.toList with
    | none => .error (.unknown token)
    | some rest => (readImage rest).mapError (.invalidImage token)

end Specimen.Category

import Specimen.Category
import Specimen.Data.Draw
import Specimen.Data.Luhn
import Specimen.Data.Url
import Specimen.Text.Numeral

/-!
# Realistic values

What the data provider draws for a category. Names, companies, streets and towns come out of word
lists, which are no part of this library: a `Vocabulary` stands for them, and the draw for such a
word is one number of 64 bits. Everything else is made up here: house numbers and postal codes,
versions, card numbers with their check digit, prices in whole cents, addresses of sites and images.
-/

namespace Specimen.Data

open Specimen.Text

/-- Word lists; each word is chosen by a number of 64 bits. -/
structure Vocabulary where
  firstName : UInt64 → String
  lastName : UInt64 → String
  username : UInt64 → String
  email : UInt64 → String
  company : UInt64 → String
  street : UInt64 → String
  city : UInt64 → String

/-- A realistic text, before the words are looked up. -/
inductive Phrase where
  | firstName (pick : UInt64)
  | lastName (pick : UInt64)
  | fullName (first last : UInt64)
  | username (pick : UInt64)
  | email (pick : UInt64)
  | company (pick : UInt64)
  | address (number : Nat) (street city : UInt64) (zip : Nat)
  | version (major minor patch : Nat)
  | card (digits : List Nat)
  deriving DecidableEq, Repr

namespace Phrase

/-- A number filled with zeros up to five digits. -/
def fiveDigits (n : Nat) : String :=
  let ds := decimal n
  String.ofList (List.replicate (5 - ds.length) '0' ++ ds)

/-- The text of digits below ten. -/
def digitText (ds : List Nat) : String := String.ofList (ds.map Nat.digitChar)

/-- The text, with its words looked up. -/
def text (words : Vocabulary) : Phrase → String
  | .firstName pick => words.firstName pick
  | .lastName pick => words.lastName pick
  | .fullName first last => s!"{words.firstName first} {words.lastName last}"
  | .username pick => words.username pick
  | .email pick => words.email pick
  | .company pick => words.company pick
  | .address number street city zip =>
    s!"{decimalText number} {words.street street}, {words.city city} {fiveDigits zip}"
  | .version major minor patch =>
    s!"{decimalText major}.{decimalText minor}.{decimalText patch}"
  | .card digits => digitText digits

/-! ## Drawing a text -/

/-- A given name. -/
def drawFirstName : Draw Phrase := do return .firstName (← Draw.bits64)

/-- A family name. -/
def drawLastName : Draw Phrase := do return .lastName (← Draw.bits64)

/-- A given name and a family name. -/
def drawFullName : Draw Phrase := do
  let first ← Draw.bits64
  let last ← Draw.bits64
  return .fullName first last

/-- A name to log in with. -/
def drawUsername : Draw Phrase := do return .username (← Draw.bits64)

/-- An e-mail address. -/
def drawEmail : Draw Phrase := do return .email (← Draw.bits64)

/-- The name of a company. -/
def drawCompany : Draw Phrase := do return .company (← Draw.bits64)

/-- A postal address with a house number below 2000 and a postal code of five digits. -/
def drawAddress : Draw Phrase := do
  let number ← Draw.between .narrow 1 1999
  let street ← Draw.bits64
  let city ← Draw.bits64
  let zip ← Draw.between .narrow 10000 99999
  return .address number street city zip

/-- A version of three numbers below 10, 20 and 50. -/
def drawVersion : Draw Phrase := do
  let major ← Draw.below .narrow 10
  let minor ← Draw.below .narrow 20
  let patch ← Draw.below .narrow 50
  return .version major minor patch

/-- A card number of sixteen digits: the first is not zero and the last is the check digit. -/
def drawCard : Draw Phrase := do
  let first ← Draw.between .narrow 1 9
  let others ← Draw.repeated (Draw.below .narrow 10) 14
  let payload := first :: others
  return .card (payload ++ [Luhn.checkDigit payload])

/-- A text for a category; a full name for a category of another domain. -/
def draw : Category → Draw Phrase
  | .firstName => drawFirstName
  | .lastName => drawLastName
  | .email => drawEmail
  | .address => drawAddress
  | .appVersion => drawVersion
  | .creditCardNumber => drawCard
  | .companyName => drawCompany
  | .username => drawUsername
  | .fullName | .price | .url | .image _ _ => drawFullName

end Phrase

/-- A price from 0.99 to 999.99, in whole cents. -/
def drawPrice : Draw Float := do
  let cents ← Draw.between .narrow 99 99999
  return Float.ofNat cents / 100.0

namespace Url

/-- The sites that addresses are made from. -/
def sites : List String :=
  ["https://www.example.com", "https://docs.example.org", "https://shop.example.net",
    "https://blog.example.com", "https://status.example.io"]

/-- The address of a placeholder image of the given size. -/
def ofImage (width height : UInt32) : Url :=
  ⟨s!"https://picsum.photos/{decimalText width.toNat}/{decimalText height.toNat}"⟩

/-- A numbered page of one of the sites. -/
def drawPage : Draw Url := do
  let site ← Draw.choose "https://www.example.com" sites
  let page ← Draw.between .narrow 1 999
  return ⟨s!"{site}/{decimalText page}"⟩

end Url

end Specimen.Data

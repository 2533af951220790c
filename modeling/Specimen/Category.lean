import Specimen.Scalar

/-!
# Categories

A category is a hint on what a value means: an e-mail address, a price, an image of a certain size.
It belongs to one domain and may be put on members whose kind accepts that domain. Here are the
categories, their written tokens and the test of compatibility; `Specimen.Category.Reader` reads
tokens back.
-/

namespace Specimen

/-- What a sample value stands for. -/
inductive Category where
  | firstName
  | lastName
  | fullName
  | email
  | address
  | appVersion
  | creditCardNumber
  | companyName
  | username
  | price
  | url
  /-- The address of a placeholder image of the given size in pixels. -/
  | image (width height : UInt32)
  deriving DecidableEq, Repr

namespace Category

/-- The categories without arguments, in the order that lists of categories use. -/
def simple : List Category :=
  [.firstName, .lastName, .fullName, .email, .address, .appVersion, .creditCardNumber,
    .companyName, .username, .price, .url]

/-- The domain of the values that the category stands for. -/
def domain : Category → Domain
  | .firstName | .lastName | .fullName | .email | .address => .text
  | .appVersion | .creditCardNumber | .companyName | .username => .text
  | .price => .double
  | .url | .image _ _ => .url

/-- Whether the category may be put on a member of the given kind. -/
def isCompatible (category : Category) (kind : ScalarKind) : Bool :=
  kind.domain? == some category.domain

/-- The name of the category in generated source. -/
def variantName : Category → String
  | .firstName => "FirstName"
  | .lastName => "LastName"
  | .fullName => "FullName"
  | .email => "Email"
  | .address => "Address"
  | .appVersion => "AppVersion"
  | .creditCardNumber => "CreditCardNumber"
  | .companyName => "CompanyName"
  | .username => "Username"
  | .price => "Price"
  | .url => "Url"
  | .image _ _ => "Image"

/-- The token that a schema writes for the category. -/
def token : Category → String
  | .firstName => "firstName"
  | .lastName => "lastName"
  | .fullName => "fullName"
  | .email => "email"
  | .address => "address"
  | .appVersion => "appVersion"
  | .creditCardNumber => "creditCardNumber"
  | .companyName => "companyName"
  | .username => "username"
  | .price => "price"
  | .url => "url"
  | .image width height => s!"image(width:{width.toNat},height:{height.toNat})"

instance : ToString Category := ⟨token⟩

/-- A kind accepts a category exactly when it is the kind of the category's domain. -/
theorem isCompatible_iff {category : Category} {kind : ScalarKind} :
    category.isCompatible kind = true ↔ kind = category.domain.expectedKind := by
  simp [isCompatible, ScalarKind.domain?_eq_some_iff]

end Category

end Specimen

import Specimen.Data.Geometry
import Specimen.Data.Phrase

/-!
# The data provider

What generated source calls for a random value. The provider has a method for every scalar kind and
may hold a category, which the methods for texts, for wide fractional numbers and for addresses heed
if it is of their domain. `drawValue` is all of these methods in one function of the kind.

Whole numbers go from zero to one thousand, or to the greatest number of a type that ends before;
fractional numbers and coordinates from zero to one thousand, which is excluded; a timestamp lies in
the first thirty-one years of the century.
-/

namespace Specimen.Data

/-- An identifier of sixteen bytes. -/
structure Uuid where
  bytes : Vector UInt8 16
  deriving DecidableEq, Repr

namespace Uuid

/-- Sixteen random bytes, with the bits set that mark a random identifier. -/
def ofRandom (bytes : Vector UInt8 16) : Uuid :=
  let bytes := bytes.set 6 ((bytes[6] &&& 0x0F) ||| 0x40)
  ⟨bytes.set 8 ((bytes[8] &&& 0x3F) ||| 0x80)⟩

/-- The written form: five groups of hexadecimal digits. -/
def text (id : Uuid) : String :=
  let group (first count : Nat) : List Char :=
    ((id.bytes.toList.drop first).take count).flatMap fun b => Text.hexadecimalOf 2 b.toNat
  String.ofList
    (group 0 4 ++ '-' :: group 4 2 ++ '-' :: group 6 2 ++ '-' :: group 8 2 ++ '-' :: group 10 6)

end Uuid

/-- A value of some scalar kind. -/
inductive Value where
  | integer (n : Nat)
  | float32 (x : Float32)
  | float64 (x : Float)
  | text (phrase : Phrase)
  | bool (b : Bool)
  | bytes (bytes : List UInt8)
  /-- A point in time, in seconds since 1970. -/
  | dateTime (seconds : Nat)
  | uuid (id : Uuid)
  | point (point : Point)
  | rect (rect : Rect)
  | size (size : Size)
  | vector (vector : Displacement)
  | url (url : Url)

namespace Provider

/-- The greatest whole number drawn for any kind. -/
def maxInteger : Nat := 1000

/-- The greatest length of a byte buffer. -/
def maxBytes : Nat := 16

/-- The first second of the year 2000. -/
def firstSecond : Nat := 946684800

/-- The last second of the year 2030. -/
def lastSecond : Nat := 1924991999

/-- The greatest whole number drawn for a kind. -/
def integerLimit : ScalarKind → Nat
  | .int8 => 127
  | .uint8 => 255
  | _ => maxInteger

/-- How wide the words are that a whole number is drawn with. -/
def integerWidth : ScalarKind → Draw.Width
  | .int | .int64 | .uint64 => .wide
  | _ => .narrow

/-- A whole number of a kind. The limit of a byte is no limit, so any byte will do. -/
def drawInteger (kind : ScalarKind) : Draw Nat :=
  match kind with
  | .uint8 => Draw.byte
  | _ => Draw.between (integerWidth kind) 0 (integerLimit kind)

/-- A narrow fractional number. -/
def drawFloat32 : Draw Float32 := do return (← Draw.fraction32) * 1000.0

/-- A coordinate. -/
def drawCoordinate : Draw Float := do return (← Draw.fraction64) * 1000.0

/-- A wide fractional number, or a price. -/
def drawFloat64 : Option Category → Draw Float
  | some .price => drawPrice
  | _ => drawCoordinate

/-- The text categories, in the order that one of them is chosen from. -/
def textCategories : List Category :=
  [.firstName, .lastName, .fullName, .email, .address, .appVersion, .creditCardNumber,
    .companyName, .username]

/-- The category a text is drawn for: the one held if it is a text category, else a random one. -/
def drawTextCategory (category? : Option Category) : Draw Category :=
  match category? with
  | some category =>
    if category.domain = .text then return category
    else Draw.choose .fullName textCategories
  | none => Draw.choose .fullName textCategories

/-- A realistic text. -/
def drawText (category? : Option Category) : Draw Phrase := do
  Phrase.draw (← drawTextCategory category?)

/-- A byte buffer. -/
def drawBytes : Draw (List UInt8) := do
  let length ← Draw.between .narrow 0 maxBytes
  return (← Draw.bytes length).toList

/-- A timestamp in whole seconds. -/
def drawDateTime : Draw Nat := Draw.between .wide firstSecond lastSecond

/-- A random identifier. -/
def drawUuid : Draw Uuid := do return Uuid.ofRandom (← Draw.bytes 16)

/-- A place in the plane. -/
def drawPoint : Draw Point := do
  let x ← drawCoordinate
  let y ← drawCoordinate
  return ⟨x, y⟩

/-- A width and a height. -/
def drawSize : Draw Size := do
  let width ← drawCoordinate
  let height ← drawCoordinate
  return ⟨width, height⟩

/-- A rectangle, its corner first. -/
def drawRect : Draw Rect := do
  let origin ← drawPoint
  let size ← drawSize
  return ⟨origin, size⟩

/-- A displacement. -/
def drawVector : Draw Displacement := do
  let dx ← drawCoordinate
  let dy ← drawCoordinate
  return ⟨dx, dy⟩

/-- An address: that of an image of the size that the category held gives, or a random page. -/
def drawUrl : Option Category → Draw Url
  | some (.image width height) => return Url.ofImage width height
  | _ => Url.drawPage

/-- The method of the provider for a scalar kind. -/
def drawValue (category? : Option Category) (kind : ScalarKind) : Draw Value := do
  match kind with
  | .float32 => return .float32 (← drawFloat32)
  | .float64 => return .float64 (← drawFloat64 category?)
  | .text => return .text (← drawText category?)
  | .bool => return .bool (← Draw.coin)
  | .bytes => return .bytes (← drawBytes)
  | .dateTime => return .dateTime (← drawDateTime)
  | .uuid => return .uuid (← drawUuid)
  | .point => return .point (← drawPoint)
  | .rect => return .rect (← drawRect)
  | .size => return .size (← drawSize)
  | .vector => return .vector (← drawVector)
  | .url => return .url (← drawUrl category?)
  | kind => return .integer (← drawInteger kind)

end Provider

end Specimen.Data

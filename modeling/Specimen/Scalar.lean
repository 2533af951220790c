/-!
# Scalar kinds

The closed list of primitive kinds that samples are made for, each with the type name it is written
under, and the value domains that categories belong to. A domain has exactly one kind that accepts
its categories, so a kind either accepts the categories of one domain or none at all.

Main statements: a type name finds the kind it names (`ofTypeName?_typeName`), and a kind accepts a
domain exactly when it is that domain's kind (`domain?_eq_some_iff`).
-/

namespace Specimen

/-- The values a category stands for: texts, fractional numbers, or addresses. -/
inductive Domain where
  | text
  | double
  | url
  deriving DecidableEq, Repr

/-- A primitive kind. -/
inductive ScalarKind where
  | int
  | int8
  | int16
  | int32
  | int64
  | uint
  | uint8
  | uint16
  | uint32
  | uint64
  | float32
  | float64
  | text
  | bool
  | bytes
  | dateTime
  | uuid
  | point
  | rect
  | size
  | vector
  | url
  deriving DecidableEq, Repr

namespace ScalarKind

/-- Every kind, in the order that lists of kinds use. -/
def all : List ScalarKind :=
  [.int, .int8, .int16, .int32, .int64, .uint, .uint8, .uint16, .uint32, .uint64, .float32,
    .float64, .text, .bool, .bytes, .dateTime, .uuid, .point, .rect, .size, .vector, .url]

/-- The name of the type that holds values of the kind. -/
def typeName : ScalarKind → String
  | .int => "isize"
  | .int8 => "i8"
  | .int16 => "i16"
  | .int32 => "i32"
  | .int64 => "i64"
  | .uint => "usize"
  | .uint8 => "u8"
  | .uint16 => "u16"
  | .uint32 => "u32"
  | .uint64 => "u64"
  | .float32 => "f32"
  | .float64 => "f64"
  | .text => "String"
  | .bool => "bool"
  | .bytes => "Bytes"
  | .dateTime => "DateTime"
  | .uuid => "Uuid"
  | .point => "Point"
  | .rect => "Rect"
  | .size => "Size"
  | .vector => "Vector"
  | .url => "Url"

/-- The method of the data provider that draws values of the kind. -/
def methodName : ScalarKind → String
  | .text => "string"
  | .bytes => "bytes"
  | .dateTime => "datetime"
  | .uuid => "uuid"
  | .point => "point"
  | .rect => "rect"
  | .size => "size"
  | .vector => "vector"
  | .url => "url"
  | kind => kind.typeName

/-- The kind whose type has the given name. -/
def ofTypeName? (name : String) : Option ScalarKind :=
  all.find? fun kind => kind.typeName == name

/-- The domain whose categories the kind accepts. -/
def domain? : ScalarKind → Option Domain
  | .text => some .text
  | .float64 => some .double
  | .url => some .url
  | _ => none

/-- Whether values of the kind are whole numbers. -/
def isInteger : ScalarKind → Bool
  | .int | .int8 | .int16 | .int32 | .int64 => true
  | .uint | .uint8 | .uint16 | .uint32 | .uint64 => true
  | _ => false

/-- Whether values of the kind are floating-point numbers. -/
def isFloat : ScalarKind → Bool
  | .float32 | .float64 => true
  | _ => false

/-- Whether values of the kind are plane figures. -/
def isGeometry : ScalarKind → Bool
  | .point | .rect | .size | .vector => true
  | _ => false

/-- Every kind is listed. -/
theorem mem_all (kind : ScalarKind) : kind ∈ all := by
  cases kind <;> decide

/-- A type name finds the kind it names. -/
theorem ofTypeName?_typeName (kind : ScalarKind) : ofTypeName? kind.typeName = some kind := by
  cases kind <;> decide +kernel

/-- Only its own type name finds a kind. -/
theorem typeName_of_ofTypeName? {name : String} {kind : ScalarKind}
    (h : ofTypeName? name = some kind) : kind.typeName = name := by
  simpa using List.find?_some h

end ScalarKind

namespace Domain

/-- The one kind that accepts the categories of the domain. -/
def expectedKind : Domain → ScalarKind
  | .text => .text
  | .double => .float64
  | .url => .url

/-- The name of the type that a category of the domain asks for. -/
def expectedType (domain : Domain) : String := domain.expectedKind.typeName

/-- The name of the domain in messages. -/
def label : Domain → String
  | .text => "string"
  | .double => "double"
  | .url => "url"

end Domain

/-- A kind accepts a domain exactly when it is that domain's kind. -/
theorem ScalarKind.domain?_eq_some_iff {kind : ScalarKind} {domain : Domain} :
    kind.domain? = some domain ↔ kind = domain.expectedKind := by
  cases kind <;> cases domain <;> decide

end Specimen

import Specimen.Source.Path
import Specimen.Text.Quoted
import Specimen.Text.Shortest

/-!
# Expressions

The values of samples, as expressions of the language that they are generated for. An expression is a
tree of what the generator says and not of all that could be said: literals, paths, calls, lists and
maps, values with named fields, and the first sample of another type. `Expr.tokens` is the source of
an expression.
-/

namespace Specimen

open Source

/-- A field in braces, by its name or by its position. -/
inductive FieldName where
  | named (name : String)
  | position (index : Nat)
  deriving DecidableEq, Repr

/-- A value in generated source. -/
inductive Expr where
  | integer (n : Nat)
  | float (x : Float)
  | bool (b : Bool)
  | text (s : String)
  | path (path : Path)
  | call (callee : Path) (arguments : List Expr)
  | method (receiver : Expr) (name : String) (arguments : List Expr)
  | list (items : List Expr)
  /-- A map from its pairs. -/
  | map (pairs : List (Expr × Expr))
  /-- A value with its fields in braces. -/
  | braces (path : Path) (fields : List (FieldName × Expr))
  /-- The first of the samples of a type, which the function `member` gives. -/
  | firstSample (type : Path) (member : String)

namespace Expr

/-- The path that stands for the type whose samples are made. -/
def selfPath : Path := .ofName "Self"

/-- A dot and a call of a method. -/
def methodTokens (name : String) (arguments : List Token) : List Token :=
  [Token.lone '.', .word name, .group .paren arguments]

/-- The tokens of a floating-point literal; a minus sign is a token of its own. -/
def floatTokens (x : Float) : List Token :=
  (if Text.isNegative x then [Token.lone '-'] else []) ++ [.literal (Text.magnitudeText x)]

/-- The token of a field name. -/
def fieldToken : FieldName → Token
  | .named name => .word name
  | .position index => .literal (Text.decimalText index)

mutual

/-- The source of an expression. -/
def tokens : Expr → List Token
  | .integer n => [.literal (Text.decimalText n)]
  | .float x => floatTokens x
  | .bool b => [.word (if b then "true" else "false")]
  | .text s => [.literal (Text.quoted s)]
  | .path p => p.tokens
  | .call callee arguments =>
    callee.tokens ++ [.group .paren (Token.commaSeparated (listTokens arguments))]
  | .method receiver name arguments =>
    receiver.tokens ++ methodTokens name (Token.commaSeparated (listTokens arguments))
  | .list items =>
    [.word "vec", Token.lone '!', .group .bracket (Token.commaSeparated (listTokens items))]
  | .map pairs =>
    .group .bracket (Token.commaSeparated (pairTokens pairs))
      :: (methodTokens "into_iter" [] ++ methodTokens "collect" [])
  | .braces p fields =>
    p.tokens ++ [.group .brace (Token.commaSeparated (fieldTokens fields))]
  | .firstSample type member =>
    type.tokens ++ Token.colons ++ [.word member, .group .paren []]
      ++ methodTokens "remove" [.literal "0"]

/-- The sources of several expressions. -/
def listTokens : List Expr → List (List Token)
  | [] => []
  | e :: es => e.tokens :: listTokens es

/-- The sources of the pairs of a map. -/
def pairTokens : List (Expr × Expr) → List (List Token)
  | [] => []
  | (key, value) :: pairs =>
    [.group .paren (Token.commaSeparated [key.tokens, value.tokens])] :: pairTokens pairs

/-- The sources of fields. -/
def fieldTokens : List (FieldName × Expr) → List (List Token)
  | [] => []
  | (name, value) :: fields =>
    (fieldToken name :: Token.lone ':' :: value.tokens) :: fieldTokens fields

end

/-- The source of an expression on one line. -/
def source (e : Expr) : String := Token.text e.tokens

/-- There is one piece of source for every expression of a list. -/
theorem listTokens_eq_map (es : List Expr) : listTokens es = es.map tokens := by
  induction es with
  | nil => simp [listTokens]
  | cons e es ih => simp [listTokens, ih]

end Expr

end Specimen

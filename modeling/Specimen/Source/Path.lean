import Specimen.Source.Token

/-!
# Paths and types as they are written

The written form of a path: whether it begins with `::`, and its segments, each a name and possibly
arguments in angle brackets. A type is a path, a type in parentheses, or something else, of which
only the tokens are kept, since no sample is made for it.

`Path.tokens` gives back the tokens of a path. Its order is the canonical one: lifetimes stand before
all other arguments.
-/

namespace Specimen.Source

mutual

/-- A type as it is written. -/
inductive TypeSyntax where
  /-- A path without a qualification in front. -/
  | path (leading : Bool) (segments : List Segment)
  | paren (inner : TypeSyntax)
  /-- A type that is no path. -/
  | other (tokens : List Token)

/-- One step of a path. -/
inductive Segment where
  | mk (name : String) (arguments : Arguments)

/-- What follows the name of a step. -/
inductive Arguments where
  | none
  /-- Arguments in angle brackets: whether `::` stands before them, and whether a comma stands after
  the last. -/
  | angled (colons : Bool) (items : List Argument) (trailing : Bool)

/-- An argument in angle brackets. -/
inductive Argument where
  | type (type : TypeSyntax)
  | lifetime (name : String)
  /-- A constant, or a type that is given or bounded by name. -/
  | other (tokens : List Token)

end

/-- A path. -/
structure Path where
  leading : Bool
  segments : List Segment

namespace Segment

/-- The name of a step. -/
def name : Segment → String
  | .mk name _ => name

/-- What follows the name of a step. -/
def arguments : Segment → Arguments
  | .mk _ arguments => arguments

end Segment

namespace Arguments

/-- Whether there are no brackets at all. -/
def isNone : Arguments → Bool
  | .none => true
  | .angled _ _ _ => false

/-- Whether there is nothing between the brackets, or no brackets. -/
def isEmpty : Arguments → Bool
  | .none => true
  | .angled _ items _ => items.isEmpty

end Arguments

/-! ## Tokens -/

/-- An argument with its tokens and the comma after it, while arguments are put in order. -/
structure ArgumentTokens where
  isLifetime : Bool
  tokens : List Token
  comma : Bool

namespace ArgumentTokens

/-- Puts arguments one after the other; `closed` tells whether a comma is due before the next. -/
def join : (closed : Bool) → List ArgumentTokens → List Token
  | _, [] => []
  | closed, a :: rest =>
    (if closed then [] else [Token.lone ',']) ++ a.tokens
      ++ (if a.comma then [Token.lone ','] else []) ++ join a.comma rest

/-- Lifetimes before all others. -/
def lifetimesFirst (items : List ArgumentTokens) : List ArgumentTokens :=
  items.filter (·.isLifetime) ++ items.filter (!·.isLifetime)

end ArgumentTokens

mutual

/-- The tokens of a type. -/
def TypeSyntax.tokens : TypeSyntax → List Token
  | .path leading segments => (if leading then Token.colons else []) ++ segmentsTokens segments
  | .paren inner => [.group .paren inner.tokens]
  | .other tokens => tokens

/-- The tokens of the steps of a path, with `::` between them. -/
def segmentsTokens : List Segment → List Token
  | [] => []
  | [segment] => segment.tokens
  | segment :: rest => segment.tokens ++ Token.colons ++ segmentsTokens rest

/-- The tokens of a step. -/
def Segment.tokens : Segment → List Token
  | .mk name arguments => .word name :: arguments.tokens

/-- The tokens of the brackets after a name. -/
def Arguments.tokens : Arguments → List Token
  | .none => []
  | .angled colons items trailing =>
    (if colons then Token.colons else []) ++ Token.lone '<'
      :: (ArgumentTokens.join true (ArgumentTokens.lifetimesFirst (argumentsTokens trailing items))
        ++ [Token.lone '>'])

/-- The arguments between brackets, each with its tokens. -/
def argumentsTokens (trailing : Bool) : List Argument → List ArgumentTokens
  | [] => []
  | [a] => [⟨a.isLifetime, a.tokens, trailing⟩]
  | a :: rest => ⟨a.isLifetime, a.tokens, true⟩ :: argumentsTokens trailing rest

/-- The tokens of one argument. -/
def Argument.tokens : Argument → List Token
  | .type type => type.tokens
  | .lifetime name => [.lifetime name]
  | .other tokens => tokens

/-- Whether an argument is a lifetime. -/
def Argument.isLifetime : Argument → Bool
  | .lifetime _ => true
  | _ => false

end

namespace Path

/-- A path of one plain name. -/
def ofName (name : String) : Path := ⟨false, [.mk name .none]⟩

/-- The tokens of a path. -/
def tokens (path : Path) : List Token :=
  (if path.leading then Token.colons else []) ++ segmentsTokens path.segments

/-- A path with plain names added at its end. -/
def join (path : Path) (names : List String) : Path :=
  { path with segments := path.segments ++ names.map fun name => .mk name .none }

end Path

/-- The names of a path with `::` between them, its arguments left out. -/
def pathText (leading : Bool) (segments : List Segment) : String :=
  (if leading then "::" else "") ++ "::".intercalate (segments.map Segment.name)

end Specimen.Source

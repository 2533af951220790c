import Specimen.Source.Constant

/-!
# Reading paths and types from text

The readers of `Specimen.Source.Grammar` on whole texts: a text is cut into tokens, and what is read
has to use up all of them.
-/

namespace Specimen.Source

/-- The path that a text consists of. -/
def path? (text : String) : Option Path :=
  match Token.lex? text.toList with
  | none => none
  | some tokens =>
    match Grammar.path? Constant.isConstant (Grammar.stepsFor tokens) tokens with
    | some (path, []) => some path
    | _ => none

/-- The type that a text consists of. -/
def type? (text : String) : Option TypeSyntax :=
  match Token.lex? text.toList with
  | none => none
  | some tokens =>
    match Grammar.type? Constant.isConstant (Grammar.stepsFor tokens) true tokens with
    | some (type, []) => some type
    | _ => none

end Specimen.Source

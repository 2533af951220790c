import Specimen.Source.Path

/-!
# Paths in their usual spelling

Above the samples of a type its path is spelled as people write it: no spaces around `::` and inside
brackets, and a space after every comma. Empty brackets and the `::` before brackets are left out. The
parts of a path that are no paths themselves are spelled from their tokens.
-/

namespace Specimen.Source

namespace Token

/-- Whether a token keeps to the token before it. -/
def leansBack : Token → Bool
  | .mark c _ => ",;>:?".toList.contains c
  | _ => false

/-- Whether a token keeps to the token behind it. -/
def leansOn : Token → Bool
  | .mark '>' _ => false
  | .mark '=' _ => false
  | .mark c joint => joint || "&*<!".toList.contains c
  | _ => false

/-- Whether a group or an opening bracket keeps to the word before it. -/
def opensAfterWord : (before next : Token) → Bool
  | .word _, .group .paren _ => true
  | .word _, .mark '<' _ => true
  | _, _ => false

/-- Whether two neighbours are spelled without a space between them. -/
def isTight (before next : Token) : Bool :=
  match before, next with
  | .mark ':' false, .mark ':' true => true
  | .mark ':' false, .word _ => true
  | .mark '-' true, .mark '>' _ => true
  | .word _, .mark ':' false => true
  | _, .mark '>' false => true
  | _, _ => leansBack next || leansOn before || opensAfterWord before next

/-- The brackets around a group, spelled. -/
def bracketed (delimiter : Delimiter) (inner : String) : String :=
  match delimiter with
  | .paren => "(" ++ inner ++ ")"
  | .bracket => "[" ++ inner ++ "]"
  | .brace => if inner.isEmpty then "\x7b\x7d" else "\x7b " ++ inner ++ " \x7d"

/-- The spelling of tokens; `before` is the token before them. -/
def spelling : (before : Option Token) → List Token → String
  | _, [] => ""
  | before, .group delimiter inner :: rest =>
    (if before.all (isTight · (.group delimiter inner)) then "" else " ")
      ++ bracketed delimiter (spelling none inner)
      ++ spelling (some (.group delimiter [])) rest
  | before, .word text :: rest =>
    (if before.all (isTight · (.word text)) then "" else " ") ++ text
      ++ spelling (some (.word text)) rest
  | before, .mark c joint :: rest =>
    (if before.all (isTight · (.mark c joint)) then "" else " ") ++ String.singleton c
      ++ spelling (some (.mark c joint)) rest
  | before, .lifetime name :: rest =>
    (if before.all (isTight · (.lifetime name)) then "" else " ") ++ "'" ++ name
      ++ spelling (some (.lifetime name)) rest
  | before, .literal text :: rest =>
    (if before.all (isTight · (.literal text)) then "" else " ") ++ text
      ++ spelling (some (.literal text)) rest

end Token

mutual

/-- The spelling of a type. -/
def TypeSyntax.spelling : TypeSyntax → String
  | .path leading segments => (if leading then "::" else "") ++ segmentsSpelling segments
  | .paren inner => "(" ++ inner.spelling ++ ")"
  | .other tokens => Token.spelling none tokens

/-- The spelling of the steps of a path. -/
def segmentsSpelling : List Segment → String
  | [] => ""
  | [segment] => segment.spelling
  | segment :: rest => segment.spelling ++ "::" ++ segmentsSpelling rest

/-- The spelling of a step. -/
def Segment.spelling : Segment → String
  | .mk name arguments => name ++ arguments.spelling

/-- The spelling of the brackets after a name. -/
def Arguments.spelling : Arguments → String
  | .none => ""
  | .angled _ items _ =>
    match argumentSpellings true items ++ argumentSpellings false items with
    | [] => ""
    | spellings => "<" ++ ", ".intercalate spellings ++ ">"

/-- The spellings of the lifetimes among arguments, or of the others. -/
def argumentSpellings (lifetimes : Bool) : List Argument → List String
  | [] => []
  | a :: rest =>
    (if a.isLifetime == lifetimes then [a.spelling] else []) ++ argumentSpellings lifetimes rest

/-- The spelling of one argument. -/
def Argument.spelling : Argument → String
  | .type type => type.spelling
  | .lifetime name => "'" ++ name
  | .other tokens => Token.spelling none tokens

end

/-- The spelling of a path. -/
def Path.spelling (path : Path) : String :=
  (if path.leading then "::" else "") ++ segmentsSpelling path.segments

end Specimen.Source

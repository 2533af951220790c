import Specimen.Source.Token

/-!
# Lines of source

A long sequence of tokens is laid out in lines. Between some tokens there is a gap, which is a space
or, before a dot, nothing; the other tokens stand next to each other. Where there is a gap depends on
the token and on a state that the tokens before it leave behind (`State.step`).

A line may end at any gap, and it ends where the text up to the next gap would reach beyond the width
of a line, in bytes. So a line is never filled further than that, unless a text without a gap is too
wide by itself.
-/

namespace Specimen.Source

namespace Layout

/-- The width of a line, in bytes. -/
def width : Nat := 89

/-- The indentation of the lines of a sequence. -/
def indent : Nat := 12

/-- Words that are laid out as marks are. -/
def keywords : List String :=
  ["as", "async", "await", "box", "break", "const", "continue", "crate", "dyn", "else", "enum",
    "extern", "fn", "for", "if", "impl", "in", "let", "loop", "macro", "match", "mod", "move", "mut",
    "pub", "ref", "return", "static", "struct", "trait", "type", "unsafe", "use", "where", "while",
    "yield"]

/-- What the tokens so far leave behind. -/
inductive State where
  | start
  /-- Behind brackets that belong to what is before them. -/
  | closed
  | word
  /-- Behind a word and an exclamation mark. -/
  | macroName
  | dot
  /-- Behind the first of two colons. -/
  | colon
  /-- Behind the second of two colons. -/
  | colons
  | other
  deriving DecidableEq, Repr

/-- Whether a space belongs before a token, and the state behind it. -/
def State.step (state : State) : Token → Bool × State
  | .group .paren _ | .group .bracket _ =>
    match state with
    | .word => (false, .closed)
    | .macroName => (false, .other)
    | _ => (true, .closed)
  | .group .brace _ => (true, .other)
  | .word text | .lifetime text =>
    if keywords.contains text then (true, .other)
    else (state != .dot && state != .colons, .word)
  | .literal _ => (state != .dot, .word)
  | .mark c joint =>
    if c = '!' ∧ joint = false ∧ state = .word then (false, .macroName)
    else if c = ':' ∧ state = .colon then (false, .colons)
    else if c = ',' ∨ c = ';' then (false, .other)
    else if c = '.' then (state != .word && state != .closed, .dot)
    else if c = ':' ∧ joint then (state != .word, .colon)
    else (true, .other)

/-- A piece of a line. -/
inductive Piece where
  | text (s : String)
  /-- A place where the line may end; otherwise a space stands there if `blank` holds. -/
  | gap (blank : Bool)
  deriving DecidableEq, Repr

/-- What stands before a token: nothing right behind a joint mark and at the beginning. -/
def before (glued space : Bool) (token : Token) : List Piece :=
  if glued then []
  else if space then [.gap true]
  else
    match token with
    | .mark '.' _ => [.gap false]
    | _ => []

/-- The pieces of a group from those of its content. -/
def groupPieces (delimiter : Delimiter) (inner : List Piece) : List Piece :=
  match delimiter with
  | .paren => .text "(" :: (inner ++ [.text ")"])
  | .bracket => .text "[" :: (inner ++ [.text "]"])
  | .brace =>
    if inner.isEmpty then [.text "\x7b\x7d"]
    else .text "\x7b" :: .gap true :: (inner ++ [.gap true, .text "\x7d"])

/-- The pieces of tokens; `glued` tells whether the first of them keeps to what is before it. -/
def pieces : (state : State) → (glued : Bool) → List Token → List Piece
  | _, _, [] => []
  | state, glued, .group delimiter inner :: rest =>
    let (space, next) := state.step (.group delimiter [])
    before glued space (.group delimiter [])
      ++ groupPieces delimiter (pieces .start true inner) ++ pieces next false rest
  | state, glued, .word text :: rest =>
    let (space, next) := state.step (.word text)
    before glued space (.word text) ++ .text text :: pieces next false rest
  | state, glued, .literal text :: rest =>
    let (space, next) := state.step (.literal text)
    before glued space (.literal text) ++ .text text :: pieces next false rest
  | state, glued, .lifetime name :: rest =>
    let (space, next) := state.step (.lifetime name)
    before glued (space || state == .dot || state == .colons) (.lifetime name)
      ++ .text ("'" ++ name) :: pieces next false rest
  | state, glued, .mark c joint :: rest =>
    let (space, next) := state.step (.mark c joint)
    before glued space (.mark c joint)
      ++ .text (String.singleton c) :: pieces next joint rest

/-- Texts between gaps: what stands before the first gap, and for every gap whether it is a space and
what stands behind it. -/
def runs : List Piece → String × List (Bool × String)
  | [] => ("", [])
  | .text s :: rest =>
    let (first, more) := runs rest
    (s ++ first, more)
  | .gap blank :: rest =>
    let (first, more) := runs rest
    ("", (blank, first) :: more)

/-- The runs on one line. -/
def flat (first : String) (more : List (Bool × String)) : String :=
  first ++ String.join (more.map fun (blank, text) => (if blank then " " else "") ++ text)

/-- Spaces. -/
def spaces (n : Nat) : String := String.ofList (List.replicate n ' ')

/-- Runs on lines of their own, from a column on. -/
def fill (column : Nat) : List (Bool × String) → String
  | [] => ""
  | (blank, text) :: more =>
    let gap := if blank then 1 else 0
    if column + gap + text.utf8ByteSize ≤ width then
      (if blank then " " else "") ++ text ++ fill (column + gap + text.utf8ByteSize) more
    else "\n" ++ spaces indent ++ text ++ fill (indent + text.utf8ByteSize) more

/-- A list of tokens in brackets behind an opening, on one line if it fits and else on lines of its
own between the brackets. -/
def bracketed (opening : String) (tokens : List Token) : String :=
  let (first, more) := runs (pieces .start true tokens)
  let line := opening ++ "[" ++ flat first more ++ "]"
  if line.utf8ByteSize ≤ width then line
  else
    opening ++ "[\n" ++ spaces indent ++ first ++ fill (indent + first.utf8ByteSize) more ++ "\n"
      ++ spaces (indent - 4) ++ "]"

end Layout

end Specimen.Source

/-!
# Tokens of source text

Source text is a sequence of words, marks, literals, lifetimes and bracketed groups, where a group
holds a sequence of its own. A mark remembers whether another mark stands directly after it, since
`::` is two joint colons and nothing else.

`Token.text` is the one-line form of a sequence that messages show: the tokens with one space
between any two, except that a joint `::` or `->` is kept together.
-/

namespace Specimen.Source

/-- The brackets of a group. -/
inductive Delimiter where
  | paren
  | bracket
  | brace
  deriving DecidableEq, Repr

/-- A token of source text. -/
inductive Token where
  /-- An identifier or a keyword; a raw identifier keeps its `r#`. -/
  | word (text : String)
  /-- A punctuation character, and whether another one follows it without a gap. -/
  | mark (char : Char) (joint : Bool)
  /-- A lifetime, without its apostrophe. -/
  | lifetime (name : String)
  /-- A literal, as it is written. -/
  | literal (text : String)
  | group (delimiter : Delimiter) (inner : List Token)
  deriving Repr

namespace Token

/-- A mark with nothing directly after it. -/
def lone (char : Char) : Token := .mark char false

/-- The two tokens of `::`. -/
def colons : List Token := [.mark ':' true, .mark ':' false]

/-- A comma after every element but the last. -/
def commaSeparated : List (List Token) → List Token
  | [] => []
  | [ts] => ts
  | ts :: rest => ts ++ lone ',' :: commaSeparated rest

/-! ## The one-line form -/

/-- A group from the one-line form of its content. -/
def groupText (delimiter : Delimiter) (inner : String) : String :=
  match delimiter with
  | .paren => "(" ++ inner ++ ")"
  | .bracket => "[" ++ inner ++ "]"
  | .brace => if inner.isEmpty then "\x7b \x7d" else "\x7b " ++ inner ++ " \x7d"

/-- The parts between which the one-line form has spaces. -/
def parts : List Token → List String
  | [] => []
  | .mark ':' true :: .mark ':' _ :: rest => "::" :: parts rest
  | .mark '-' true :: .mark '>' _ :: rest => "->" :: parts rest
  | .mark c _ :: rest => String.singleton c :: parts rest
  | .word text :: rest => text :: parts rest
  | .lifetime name :: rest => ("'" ++ name) :: parts rest
  | .literal text :: rest => text :: parts rest
  | .group delimiter inner :: rest =>
    groupText delimiter (" ".intercalate (parts inner)) :: parts rest

/-- The one-line form of a sequence of tokens. -/
def text (tokens : List Token) : String := " ".intercalate (parts tokens)

/-! ## Size -/

/-- The number of tokens of a sequence, those inside groups included. -/
def count : List Token → Nat
  | [] => 0
  | .group _ inner :: rest => count inner + count rest + 1
  | .word _ :: rest => count rest + 1
  | .mark _ _ :: rest => count rest + 1
  | .lifetime _ :: rest => count rest + 1
  | .literal _ :: rest => count rest + 1

end Token

end Specimen.Source

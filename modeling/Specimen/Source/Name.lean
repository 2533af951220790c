import Specimen.Source.Lexer

/-!
# Names

A name in generated source is one identifier: a word that is no keyword, or any word written raw. The
keywords are those of every edition of the language that samples are generated for, and those that
are reserved for later ones.

Main statement: a name is read from a text exactly when the text has one token, a word that is no
keyword (`name?_eq_some_iff`).
-/

namespace Specimen.Source

/-- Words that are no identifiers unless they are written raw. -/
def keywords : List String :=
  ["_", "abstract", "as", "async", "await", "become", "box", "break", "const", "continue", "crate",
    "do", "dyn", "else", "enum", "extern", "false", "final", "fn", "for", "if", "impl", "in", "let",
    "loop", "macro", "match", "mod", "move", "mut", "override", "priv", "pub", "ref", "return",
    "Self", "self", "static", "struct", "super", "trait", "true", "try", "type", "typeof", "unsafe",
    "unsized", "use", "virtual", "where", "while", "yield"]

/-- Whether a word token is an identifier. -/
def isIdentifier (word : String) : Bool := !keywords.contains word

/-- The name that a text consists of, comments and blanks apart. -/
def name? (text : String) : Option String :=
  match Token.lex? text.toList with
  | some [.word word] => if isIdentifier word then some word else none
  | _ => none

/-- A text is a name when its one token is a word that is no keyword. -/
theorem name?_eq_some_iff {text word : String} :
    name? text = some word ↔
      Token.lex? text.toList = some [.word word] ∧ isIdentifier word = true := by
  unfold name?
  split
  · rename_i w hw
    split
    · rename_i hi
      simp only [hw, Option.some.injEq, List.cons.injEq, Token.word.injEq, and_true]
      constructor
      · rintro rfl
        exact ⟨rfl, hi⟩
      · exact fun h => h.1
    · rename_i hi
      simp only [hw, Option.some.injEq, List.cons.injEq, Token.word.injEq, and_true,
        reduceCtorEq, false_iff, not_and]
      rintro rfl
      exact hi
  · rename_i hne
    simp only [reduceCtorEq, false_iff, not_and]
    intro h
    exact absurd h (hne word)

end Specimen.Source

import Specimen.Source.Pattern

/-!
# The grammar of constants

A constant stands as the length of an array type and between braces among the arguments of a path.
It is any expression of the language, so this module recognises expressions and says nothing of what
they mean: a function here takes tokens and gives the tokens after what it recognises.

Declarations, which a block may hold besides statements, are recognised by where they end: whatever
stands between the word that begins one and the next semicolon or group in braces passes for one.

As in `Specimen.Source.Grammar`, a number of steps is counted down.
-/

namespace Specimen.Source.Constant

open Grammar

/-! ## Operators -/

/-- The operators between two operands, the longer ones first. -/
def operators : List (List Char) :=
  [['<', '<', '='], ['>', '>', '='], ['.', '.', '='], ['=', '='], ['!', '='], ['<', '='],
    ['>', '='], ['&', '&'], ['|', '|'], ['<', '<'], ['>', '>'], ['+', '='], ['-', '='],
    ['*', '='], ['/', '='], ['%', '='], ['^', '='], ['&', '='], ['|', '='], ['.', '.'], ['+'],
    ['-'], ['*'], ['/'], ['%'], ['^'], ['&'], ['|'], ['<'], ['>'], ['=']]

/-- The longest operator at the front, and the tokens after it; the arrow of an arm is none. -/
def operator? (ts : List Token) : Option (List Char × List Token) :=
  if startsMarks '=' '>' ts then none
  else operators.findSome? fun row => (Pattern.afterRow? row ts).map fun rest => (row, rest)

/-- Whether an operator is a range, whose operands may be left out. -/
def isRange (row : List Char) : Bool := row == ['.', '.'] || row == ['.', '.', '=']

/-! ## Declarations -/

/-- The tokens after a declaration that ends in a semicolon or a group in braces. -/
def afterItem? : List Token → Option (List Token)
  | [] => none
  | .mark ';' _ :: ts => some ts
  | .group .brace _ :: ts => some ts
  | _ :: ts => afterItem? ts

/-- Words that begin a declaration. -/
def itemWords : List String :=
  ["use", "static", "type", "fn", "struct", "enum", "impl", "trait", "mod", "pub", "extern"]

/-! ## Expressions -/

/-- Whether nothing is left or what is left ends an operand. -/
def endsOperand : List Token → Bool
  | [] => true
  | .mark ',' _ :: _ => true
  | .mark ';' _ :: _ => true
  | ts => startsMarks '=' '>' ts

mutual

/-- Whether tokens are an expression. -/
def isExpression : (steps : Nat) → List Token → Bool
  | 0, _ => false
  | n + 1, ts =>
    match after? n true ts with
    | some [] => true
    | _ => false

/-- Recognises an expression; `records` tells whether a group in braces may follow a path. -/
def after? : (steps : Nat) → (records : Bool) → List Token → Option (List Token)
  | 0, _, _ => none
  | n + 1, records, ts =>
    match ts with
    | .mark '.' true :: .mark '.' _ :: _ =>
      let rest := (afterMarks? '.' '.' ts).getD []
      let rest := (afterMark? '=' rest).getD rest
      if endsOperand rest then some rest else after? n records rest
    | _ =>
      match operand? n records ts with
      | some rest => tail? n records rest
      | none => none

/-- Recognises operators and further operands. -/
def tail? : (steps : Nat) → (records : Bool) → List Token → Option (List Token)
  | 0, _, _ => none
  | n + 1, records, ts =>
    match ts with
    | .word "as" :: rest =>
      match type? (isExpression n) (n + 1) false rest with
      | some (_, rest) => tail? n records rest
      | none => none
    | _ =>
      match operator? ts with
      | none => some ts
      | some (row, rest) =>
        if isRange row && (endsOperand rest || (!records && (rest.head?.map fun t =>
            match t with
            | .group .brace _ => true
            | _ => false).getD false)) then some rest
        else
          match operand? n records rest with
          | some rest => tail? n records rest
          | none => none

/-- Recognises an operand with what stands before it: attributes, signs, or a pattern that it has to match. -/
def operand? : (steps : Nat) → (records : Bool) → List Token → Option (List Token)
  | 0, _, _ => none
  | n + 1, records, ts =>
    match ts with
    | .mark '#' _ :: .group .bracket _ :: rest => operand? n records rest
    | .word "let" :: rest =>
      match (Pattern.alternatives? (isExpression n) (n + 1) rest).bind (afterMark? '=') with
      | some rest => operand? n records rest
      | none => none
    | .mark '!' _ :: rest => operand? n records rest
    | .mark '-' _ :: rest => operand? n records rest
    | .mark '*' _ :: rest => operand? n records rest
    | .mark '&' _ :: .word "mut" :: rest => operand? n records rest
    | .mark '&' _ :: rest => operand? n records rest
    | .mark '|' _ :: rest => closure? n records rest
    | .word "move" :: .mark '|' _ :: rest => closure? n records rest
    | .word "return" :: rest => if endsOperand rest then some rest else after? n records rest
    | .word "break" :: .lifetime _ :: rest =>
      if endsOperand rest then some rest else after? n records rest
    | .word "break" :: rest => if endsOperand rest then some rest else after? n records rest
    | .word "continue" :: .lifetime _ :: rest => some rest
    | .word "continue" :: rest => some rest
    | _ =>
      match atom? n records ts with
      | some rest => suffixes? n records rest
      | none => none

/-- Recognises a function without a name, whose first bar has been read. -/
def closure? : (steps : Nat) → (records : Bool) → List Token → Option (List Token)
  | 0, _, _ => none
  | n + 1, records, ts =>
    match Pattern.inputs? (isExpression n) (n + 1) ts with
    | none => none
    | some rest =>
      match afterMarks? '-' '>' rest with
      | none => after? n records rest
      | some rest =>
        match type? (isExpression n) (n + 1) true rest with
        | some (_, .group .brace inner :: rest) => if isBlock n inner then some rest else none
        | _ => none

/-- Recognises what may follow an operand: calls, members, indices and question marks. -/
def suffixes? : (steps : Nat) → (records : Bool) → List Token → Option (List Token)
  | 0, _, _ => none
  | n + 1, records, ts =>
    match ts with
    | .group .paren inner :: rest =>
      if isList n inner then suffixes? n records rest else none
    | .group .bracket inner :: rest =>
      match after? n true inner with
      | some [] => suffixes? n records rest
      | _ => none
    | .mark '?' _ :: rest => suffixes? n records rest
    | .mark '.' false :: .literal _ :: rest => suffixes? n records rest
    | .mark '.' false :: .word word :: rest =>
      if isIdentifier word || word == "await" then
        match (afterMarks? ':' ':' rest).bind (afterMark? '<') with
        | some inner =>
          match arguments? (isExpression n) (n + 1) inner with
          | some (_, rest) => suffixes? n records rest
          | none => none
        | none => suffixes? n records rest
      else none
    | _ => some ts

/-- Recognises an operand without signs before or suffixes after it. -/
def atom? : (steps : Nat) → (records : Bool) → List Token → Option (List Token)
  | 0, _, _ => none
  | n + 1, records, ts =>
    match ts with
    | .literal _ :: rest => some rest
    | .word "true" :: rest => some rest
    | .word "false" :: rest => some rest
    | .word "_" :: rest => some rest
    | .group .paren inner :: rest => if isList n inner then some rest else none
    | .group .bracket inner :: rest =>
      if isList n inner || isRepeat n inner then some rest else none
    | .group .brace inner :: rest => if isBlock n inner then some rest else none
    | .lifetime _ :: .mark ':' _ :: rest => atom? n records rest
    | .word "unsafe" :: .group .brace inner :: rest => if isBlock n inner then some rest else none
    | .word "const" :: .group .brace inner :: rest => if isBlock n inner then some rest else none
    | .word "async" :: .group .brace inner :: rest => if isBlock n inner then some rest else none
    | .word "loop" :: .group .brace inner :: rest => if isBlock n inner then some rest else none
    | .word "if" :: rest =>
      match after? n false rest with
      | some (.group .brace inner :: rest) =>
        if isBlock n inner then
          match rest with
          | .word "else" :: .word "if" :: rest => atom? n records (.word "if" :: rest)
          | .word "else" :: .group .brace inner :: rest =>
            if isBlock n inner then some rest else none
          | _ => some rest
        else none
      | _ => none
    | .word "while" :: rest =>
      match after? n false rest with
      | some (.group .brace inner :: rest) => if isBlock n inner then some rest else none
      | _ => none
    | .word "for" :: rest =>
      match Pattern.alternatives? (isExpression n) (n + 1) rest with
      | some (.word "in" :: rest) =>
        match after? n false rest with
        | some (.group .brace inner :: rest) => if isBlock n inner then some rest else none
        | _ => none
      | _ => none
    | .word "match" :: rest =>
      match after? n false rest with
      | some (.group .brace inner :: rest) => if areArms n inner then some rest else none
      | _ => none
    | .mark '<' _ :: rest =>
      (qualified? (isExpression n) (n + 1) rest).map Prod.snd
    | _ => pathAtom? n records ts

/-- Recognises a path, a macro or a record. The arguments of its steps have `::` before them. -/
def pathAtom? : (steps : Nat) → (records : Bool) → List Token → Option (List Token)
  | 0, _, _ => none
  | n + 1, records, ts =>
    match Pattern.names? (isExpression n) (n + 1) ((afterMarks? ':' ':' ts).getD ts) with
    | none => none
    | some rest =>
      match rest with
      | .mark '!' _ :: .group _ _ :: rest => some rest
      | .group .brace inner :: after =>
        if records then if areFields n inner then some after else none else some rest
      | _ => some rest

/-- Whether tokens are expressions with commas between them. -/
def isList : (steps : Nat) → List Token → Bool
  | 0, _ => false
  | _ + 1, [] => true
  | n + 1, ts =>
    match after? n true ts with
    | some [] => true
    | some (.mark ',' _ :: rest) => isList n rest
    | _ => false

/-- Whether tokens are an expression, a semicolon and a count. -/
def isRepeat : (steps : Nat) → List Token → Bool
  | 0, _ => false
  | n + 1, ts =>
    match after? n true ts with
    | some (.mark ';' _ :: rest) =>
      match after? n true rest with
      | some [] => true
      | _ => false
    | _ => false

/-- Whether tokens are the fields of a record. -/
def areFields : (steps : Nat) → List Token → Bool
  | 0, _ => false
  | _ + 1, [] => true
  | n + 1, ts =>
    let value? :=
      match ts with
      | .mark '.' true :: .mark '.' _ :: [] => some []
      | .mark '.' true :: .mark '.' _ :: rest => after? n true rest
      | .word _ :: .mark ':' _ :: rest => after? n true rest
      | .literal _ :: .mark ':' _ :: rest => after? n true rest
      | .word word :: rest => if isIdentifier word then some rest else none
      | _ => none
    match value? with
    | some [] => true
    | some (.mark ',' _ :: rest) => areFields n rest
    | _ => false

/-- Recognises the pattern of an arm with its condition, up to the arrow. -/
def armHead? : (steps : Nat) → List Token → Option (List Token)
  | 0, _ => none
  | n + 1, ts =>
    match Pattern.alternatives? (isExpression n) (n + 1) (attributes ts).2 with
    | some (.word "if" :: condition) => (after? n true condition).bind (afterMarks? '=' '>')
    | some rest => afterMarks? '=' '>' rest
    | none => none

/-- Whether tokens are the arms of a match. -/
def areArms : (steps : Nat) → List Token → Bool
  | 0, _ => false
  | _ + 1, [] => true
  | n + 1, ts =>
    match armHead? n ts with
    | none => false
    | some (.group .brace inner :: .mark ',' _ :: rest) => isBlock n inner && areArms n rest
    | some body =>
      match after? n true body with
      | some [] => true
      | some (.mark ',' _ :: rest) => areArms n rest
      | _ =>
        match body with
        | .group .brace inner :: rest => isBlock n inner && areArms n rest
        | _ => false

/-- Recognises what stands behind `let` in a block: a pattern, possibly with a type, a value, and a block
for a value that does not match. -/
def local? : (steps : Nat) → List Token → Option (List Token)
  | 0, _ => none
  | n + 1, ts =>
    match (Pattern.after? (isExpression n) (n + 1) ts).bind
        (Pattern.typed? (isExpression n) (n + 1)) with
    | none => none
    | some rest =>
      match afterMark? '=' rest with
      | none => afterMark? ';' rest
      | some rest =>
        match after? n true rest with
        | some (.word "else" :: .group .brace inner :: rest) =>
          if isBlock n inner then afterMark? ';' rest else none
        | some rest => afterMark? ';' rest
        | none => none

/-- Whether tokens are the content of a block. A declaration passes by where it ends. -/
def isBlock : (steps : Nat) → List Token → Bool
  | 0, _ => false
  | _ + 1, [] => true
  | n + 1, ts =>
    match ts with
    | .mark ';' _ :: rest => isBlock n rest
    | .mark '#' _ :: .group .bracket _ :: rest => !endsOperand rest && isBlock n rest
    | .word "let" :: rest =>
      match local? n rest with
      | some rest => isBlock n rest
      | none => false
    | .word word :: .word _ :: _ =>
      if itemWords.contains word || word == "const" then
        match afterItem? ts with
        | some rest => isBlock n rest
        | none => false
      else isStatements n ts
    | _ => isStatements n ts

/-- Whether tokens are an expression and the content of a block after it. Only a semicolon, a group
in braces or the end may end the expression. -/
def isStatements : (steps : Nat) → List Token → Bool
  | 0, _ => false
  | n + 1, ts =>
    match after? n true ts with
    | some [] => true
    | some (.mark ';' _ :: rest) => isBlock n rest
    | _ =>
      match atom? n true ts with
      | some rest =>
        (match ts.drop (ts.length - rest.length - 1) with
          | .group .brace _ :: _ => true
          | _ => false) && isBlock n rest
      | none => false

end

/-- Whether tokens are a constant. -/
def isConstant (ts : List Token) : Bool :=
  match after? (stepsFor ts) true ts with
  | some [] => true
  | _ => false

end Specimen.Source.Constant

import Specimen.Source.Grammar

/-!
# The grammar of patterns

Patterns stand among expressions: behind `let` and `for`, in the arms of a match, and as the inputs of a
function without a name. As expressions are, they are recognised only: a function here takes tokens and
gives the tokens after what it recognises.

As in `Specimen.Source.Grammar`, a number of steps is counted down, and the test of what a constant is is
left open.
-/

namespace Specimen.Source.Pattern

open Grammar

/-- The tokens after a row of marks, all but the last of them joint. -/
def afterRow? : List Char → List Token → Option (List Token)
  | [], ts => some ts
  | [c], ts => afterMark? c ts
  | c :: cs, .mark d true :: ts => if c = d then afterRow? cs ts else none
  | _, _ => none

/-! ## Paths and ranges -/

/-- Recognises the steps of a path. The arguments of a step have `::` before them. -/
def names? (constant : Constant) : (steps : Nat) → List Token → Option (List Token)
  | 0, _ => none
  | n + 1, ts =>
    match ts with
    | .word word :: rest =>
      if startsPath word || word == "try" then
        match (afterMarks? ':' ':' rest).bind (afterMark? '<') with
        | some inner =>
          match arguments? constant (n + 1) inner with
          | some (_, rest) =>
            match afterMarks? ':' ':' rest with
            | some after => names? constant n after
            | none => some rest
          | none => none
        | none =>
          match afterMarks? ':' ':' rest with
          | some after => names? constant n after
          | none => some rest
      else none
    | _ => none

/-- Recognises a path, possibly with a qualification. -/
def path? (constant : Constant) (n : Nat) : List Token → Option (List Token)
  | .mark '<' _ :: ts => (qualified? constant n ts).map Prod.snd
  | ts => names? constant n ((afterMarks? ':' ':' ts).getD ts)

/-- Whether a range ends without a bound: nothing is left, or what is left is no part of a pattern. -/
def endsRange : List Token → Bool
  | [] => true
  | .mark '|' _ :: _ => true
  | .mark '=' _ :: _ => true
  | .mark ',' _ :: _ => true
  | .mark ';' _ :: _ => true
  | .word "if" :: _ => true
  | ts => startsMark ':' ts && !startsColons ts

/-- Recognises a bound of a range: a literal, a block of constant value or a path. -/
def bound? (constant : Constant) (n : Nat) : List Token → Option (List Token)
  | .word "const" :: .group .brace inner :: ts =>
    if constant [.group .brace inner] then some ts else none
  | ts =>
    match literal? ts with
    | some (_, rest) => some rest
    | none => path? constant n ts

/-- Recognises the dots of a range and the bound behind them, which a range that includes it may not lack. -/
def upper? (constant : Constant) (n : Nat) (ts : List Token) : Option (List Token) :=
  match (afterRow? ['.', '.', '='] ts).or (afterRow? ['.', '.', '.'] ts) with
  | some rest => bound? constant n rest
  | none => (afterMarks? '.' '.' ts).bind fun rest =>
      if endsRange rest then some rest else bound? constant n rest

/-- Recognises dots and a further bound, if they are there. -/
def range? (constant : Constant) (n : Nat) (ts : List Token) : Option (List Token) :=
  if startsMarks '.' '.' ts then upper? constant n ts else some ts

/-! ## Patterns -/

/-- Whether what follows a word makes it the beginning of a path, a macro, a record or a range. -/
def continues : List Token → Bool
  | .group .paren _ :: _ => true
  | .group .brace _ :: _ => true
  | ts => startsColons ts || startsMark '!' ts || startsMarks '.' '.' ts

/-- Whether tokens begin with a name that is bound to what is matched. -/
def startsBinding : List Token → Bool
  | .word "self" :: ts => !startsColons ts
  | .word word :: ts => word == "ref" || word == "mut" || isIdentifier word && !continues ts
  | _ => false

mutual

/-- Recognises a pattern without alternatives. -/
def after? (constant : Constant) : (steps : Nat) → List Token → Option (List Token)
  | 0, _ => none
  | n + 1, ts =>
    match ts with
    | .word "_" :: rest => some rest
    | .word "box" :: rest => after? constant n rest
    | .mark '&' _ :: rest => after? constant n (optionalWord "mut" rest).2
    | .group .paren inner :: rest => if areAll constant n inner then some rest else none
    | .group .bracket inner :: rest => if areAll constant n inner then some rest else none
    | .mark '.' _ :: _ => if startsEllipsis ts then none else upper? constant n ts
    | .mark '-' _ :: _ | .literal _ :: _ | .word "true" :: _ | .word "false" :: _
    | .word "const" :: _ => (bound? constant n ts).bind (range? constant n)
    | _ => if startsBinding ts then binding? constant n ts else named? constant n ts

/-- Recognises a name that is bound to what is matched, and what is matched behind `@`. -/
def binding? (constant : Constant) : (steps : Nat) → List Token → Option (List Token)
  | 0, _ => none
  | n + 1, ts =>
    match (optionalWord "mut" (optionalWord "ref" ts).2).2 with
    | .word word :: rest =>
      if isIdentifier word || word == "self" then
        match afterMark? '@' rest with
        | some rest => after? constant n rest
        | none => some rest
      else none
    | _ => none

/-- Recognises a pattern that begins with a path: the path itself, a macro, a record or a range. -/
def named? (constant : Constant) : (steps : Nat) → List Token → Option (List Token)
  | 0, _ => none
  | n + 1, ts =>
    match path? constant n ts with
    | none => none
    | some (.mark '!' _ :: .group _ _ :: rest) => some rest
    | some (.group .brace inner :: rest) => if areFields constant n inner then some rest else none
    | some (.group .paren inner :: rest) => if areAll constant n inner then some rest else none
    | some rest => range? constant n rest

/-- Recognises patterns with bars between them; a bar may stand before the first, too. -/
def alternatives? (constant : Constant) : (steps : Nat) → List Token → Option (List Token)
  | 0, _ => none
  | n + 1, ts =>
    match after? constant n ((afterMark? '|' ts).getD ts) with
    | none => none
    | some rest =>
      if startsMark '|' rest && !startsMarks '|' '|' rest && !startsMarks '|' '=' rest then
        alternatives? constant n rest
      else some rest

/-- Whether tokens are patterns with commas between them. -/
def areAll (constant : Constant) : (steps : Nat) → List Token → Bool
  | 0, _ => false
  | _ + 1, [] => true
  | n + 1, ts =>
    match alternatives? constant n ts with
    | some [] => true
    | some (.mark ',' _ :: rest) => areAll constant n rest
    | _ => false

/-- Whether tokens are the patterns of the fields of a record. -/
def areFields (constant : Constant) : (steps : Nat) → List Token → Bool
  | 0, _ => false
  | _ + 1, [] => true
  | n + 1, ts =>
    let ts := (attributes ts).2
    let field? :=
      match ts with
      | .literal _ :: .mark ':' _ :: rest => alternatives? constant n rest
      | .word word :: .mark ':' _ :: rest =>
        if isIdentifier word then alternatives? constant n rest else none
      | _ =>
        match (optionalWord "mut" (optionalWord "ref" (optionalWord "box" ts).2).2).2 with
        | .word word :: rest => if isIdentifier word then some rest else none
        | _ => none
    match (afterMarks? '.' '.' ts).or field? with
    | some [] => true
    | some (.mark ',' _ :: rest) => !startsMarks '.' '.' ts && areFields constant n rest
    | _ => false

end

/-! ## Patterns with types -/

/-- Recognises a type behind a colon, if it is there. -/
def typed? (constant : Constant) (n : Nat) (ts : List Token) : Option (List Token) :=
  match afterMark? ':' ts with
  | some rest => (type? constant n true rest).map Prod.snd
  | none => some ts

/-- Recognises the inputs of a function without a name, up to the bar behind them. -/
def inputs? (constant : Constant) : (steps : Nat) → List Token → Option (List Token)
  | 0, _ => none
  | n + 1, ts =>
    match afterMark? '|' ts with
    | some rest => some rest
    | none =>
      match (after? constant n (attributes ts).2).bind (typed? constant n) with
      | none => none
      | some rest =>
        match afterMark? ',' rest with
        | some rest => inputs? constant n rest
        | none => afterMark? '|' rest

end Specimen.Source.Pattern

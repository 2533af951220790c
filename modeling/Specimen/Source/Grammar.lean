import Specimen.Source.Name
import Specimen.Source.Path

/-!
# The grammar of paths and types

Readers for paths, types and what they are made of. A reader takes tokens and gives what it has read
together with the tokens after it, or nothing. Types refer to one another without bound, so every
reader counts down a number of steps, which its callers take from the number of tokens.

A type may hold constants, as the length of an array does. What a constant is does not matter here:
`Constant` stands for the test, and `Specimen.Source.Constant` gives it.

Of a type that is no path only the tokens are kept. They are kept as they are written, but that
lifetimes come first among the arguments of a path.
-/

namespace Specimen.Source.Grammar

/-- The test of what a constant is, for a whole sequence of tokens. -/
abbrev Constant := List Token → Bool

/-- A reader: what it reads, and the tokens after it. -/
abbrev Reader (α : Type) := List Token → Option (α × List Token)

/-! ## Single tokens -/

/-- The tokens after a mark. -/
def afterMark? (c : Char) : List Token → Option (List Token)
  | .mark d _ :: ts => if c = d then some ts else none
  | _ => none

/-- Whether tokens begin with a mark. -/
def startsMark (c : Char) (ts : List Token) : Bool := (afterMark? c ts).isSome

/-- The tokens after a joint mark and another one. -/
def afterMarks? (c d : Char) : List Token → Option (List Token)
  | .mark c' true :: .mark d' _ :: ts => if c = c' ∧ d = d' then some ts else none
  | _ => none

/-- Whether tokens begin with a joint mark and another one. -/
def startsMarks (c d : Char) (ts : List Token) : Bool := (afterMarks? c d ts).isSome

/-- Whether tokens begin with `::`. -/
def startsColons (ts : List Token) : Bool := startsMarks ':' ':' ts

/-- Whether tokens begin with a group in parentheses. -/
def startsParen : List Token → Bool
  | .group .paren _ :: _ => true
  | _ => false

/-- Whether tokens begin with a given word. -/
def startsWord (word : String) : List Token → Bool
  | .word w :: _ => w == word
  | _ => false

/-- Reads a mark if it is there. -/
def optionalMark (c : Char) (ts : List Token) : List Token × List Token :=
  match afterMark? c ts with
  | some rest => ([Token.lone c], rest)
  | none => ([], ts)

/-- Reads a word if it is there. -/
def optionalWord (word : String) (ts : List Token) : List Token × List Token :=
  if startsWord word ts then (ts.take 1, ts.drop 1) else ([], ts)

/-- Reads a lifetime if it is there. -/
def optionalLifetime : List Token → List Token × List Token
  | .lifetime name :: ts => ([.lifetime name], ts)
  | ts => ([], ts)

/-- Reads the lifetime and the `mut` that may stand between an ampersand and a type. -/
def borrow (ts : List Token) : List Token × List Token :=
  let (lifetime, ts) := optionalLifetime ts
  let (mutable, ts) := optionalWord "mut" ts
  (lifetime ++ mutable, ts)

/-- Whether a literal is a number. -/
def isNumber (literal : String) : Bool :=
  match literal.toList with
  | c :: _ => c.isDigit
  | [] => false

/-- Reads a literal; a truth value is one, and so is a number with a minus sign. -/
def literal? : Reader (List Token)
  | .literal text :: ts => some ([.literal text], ts)
  | .word "true" :: ts => some ([.word "true"], ts)
  | .word "false" :: ts => some ([.word "false"], ts)
  | .mark '-' _ :: .literal text :: ts =>
    if isNumber text then some ([Token.lone '-', .literal text], ts) else none
  | _ => none

/-- Whether a word may begin a path. -/
def startsPath (word : String) : Bool :=
  isIdentifier word || word == "super" || word == "self" || word == "Self" || word == "crate"

/-- Whether tokens may begin a further bound. -/
def startsBound : List Token → Bool
  | .word _ :: _ => true
  | .lifetime _ :: _ => true
  | .group .paren _ :: _ => true
  | .mark '?' _ :: _ => true
  | ts => startsColons ts

/-- Reads lifetimes with commas between them up to the closing bracket. -/
def lifetimes? : Reader (List Token)
  | .mark '>' _ :: ts => some ([Token.lone '>'], ts)
  | .lifetime name :: .mark '>' _ :: ts => some ([.lifetime name, Token.lone '>'], ts)
  | .lifetime name :: .mark ',' _ :: ts =>
    (lifetimes? ts).map fun (inner, rest) => (.lifetime name :: Token.lone ',' :: inner, rest)
  | _ => none

/-- Reads `for<'a, …>` if it is there. -/
def binder? : Reader (List Token)
  | .word "for" :: .mark '<' _ :: ts =>
    (lifetimes? ts).map fun (inner, rest) => (.word "for" :: Token.lone '<' :: inner, rest)
  | .word "for" :: _ => none
  | ts => some ([], ts)

/-- Reads attributes, as far as their brackets. -/
def attributes : List Token → List Token × List Token
  | .mark '#' _ :: .group .bracket inner :: ts =>
    let (more, rest) := attributes ts
    (Token.lone '#' :: .group .bracket inner :: more, rest)
  | ts => ([], ts)

/-- Reads what a bound may capture: lifetimes and names in angle brackets. -/
def captured? : Reader (List Token)
  | .mark '>' _ :: ts => some ([Token.lone '>'], ts)
  | t :: .mark '>' _ :: ts => some ([t, Token.lone '>'], ts)
  | t :: .mark ',' _ :: ts =>
    (captured? ts).map fun (inner, rest) => (t :: Token.lone ',' :: inner, rest)
  | _ => none

/-- The tokens of `->`. -/
def arrow : List Token := [.mark '-' true, Token.lone '>']

/-- The tokens of `...`. -/
def ellipsis : List Token := [.mark '.' true, .mark '.' true, Token.lone '.']

/-- Whether tokens begin with `...`. -/
def startsEllipsis : List Token → Bool
  | .mark '.' true :: .mark '.' true :: .mark '.' _ :: _ => true
  | _ => false

/-- Reads the linkage of a function, if it is there: `extern` and the name of a convention. -/
def linkage (ts : List Token) : List Token × List Token :=
  match ts with
  | .word "extern" :: .literal text :: rest =>
    if text.startsWith "\"" || text.startsWith "r" then ([.word "extern", .literal text], rest)
    else ([.word "extern"], .literal text :: rest)
  | .word "extern" :: rest => ([.word "extern"], rest)
  | _ => ([], ts)

/-- Reads the name of an input and the colon behind it, if they are there. Only the first input may be
named as the receiver. -/
def label (first : Bool) (ts : List Token) : List Token × List Token :=
  match ts with
  | .word word :: .mark ':' joint :: rest =>
    if (isIdentifier word || word == "_" || (first && word == "self"))
        && !startsColons (.mark ':' joint :: rest) then
      ([.word word, Token.lone ':'], rest)
    else ([], ts)
  | .word "mut" :: .word "self" :: .mark ':' _ :: rest =>
    if first then ([.word "mut", .word "self", Token.lone ':'], rest) else ([], ts)
  | _ => ([], ts)

/-- Reads one input with a reader of types, or the receiver where it may stand. -/
def input? (receiver : Bool) (type? : Reader TypeSyntax) : Reader (List Token)
  | .word "mut" :: .word "self" :: ts =>
    if receiver then some ([.word "mut", .word "self"], ts) else none
  | ts => (type? ts).map fun (type, rest) => (type.tokens, rest)

/-- Whether a path is names only, and may so be that of a macro. -/
def isPlain (path : Path) : Bool := path.segments.all fun segment => segment.arguments.isNone

/-- Whether a type is one name, possibly with arguments, as the name of an argument is. -/
def isArgumentName : TypeSyntax → Bool
  | .path false [_] => true
  | _ => false

/-! ## Types -/

mutual

/-- Reads a type; `plus` tells whether bounds may be added to it. -/
def type? (constant : Constant) : (steps : Nat) → (plus : Bool) → Reader TypeSyntax
  | 0, _, _ => none
  | n + 1, plus, .word "for" :: ts =>
    match binder? (.word "for" :: ts) with
    | none => none
    | some (binder, rest) =>
      match rest with
      | .word word :: _ =>
        if word == "fn" || word == "unsafe" || word == "extern" then
          (function? constant n rest).map fun (inner, rest) => (.other (binder ++ inner), rest)
        else if startsPath word then pathType? constant n plus binder rest
        else none
      | _ => none
  | n + 1, plus, .group .paren inner :: ts => parenthesized? constant n plus inner ts
  | n + 1, plus, .word "dyn" :: ts =>
    let (star, rest) := optionalMark '*' ts
    match bounds? constant n plus false rest with
    | some ((true, inner), rest) => some (.other (.word "dyn" :: star ++ inner), rest)
    | _ => none
  | n + 1, plus, .word "impl" :: ts =>
    match bounds? constant n plus true ts with
    | some ((true, inner), rest) => some (.other (.word "impl" :: inner), rest)
    | _ => none
  | _ + 1, _, .word "_" :: ts => some (.other [.word "_"], ts)
  | n + 1, plus, .word word :: ts =>
    if word == "fn" || word == "unsafe" || word == "extern" then
      (function? constant n (.word word :: ts)).map fun (inner, rest) => (.other inner, rest)
    else if startsPath word then pathType? constant n plus [] (.word word :: ts)
    else none
  | n + 1, _, .group .bracket inner :: ts =>
    match type? constant n true inner with
    | some (element, []) => some (.other [.group .bracket element.tokens], ts)
    | some (element, .mark ';' _ :: length) =>
      if constant length then
        some (.other [.group .bracket (element.tokens ++ Token.lone ';' :: length)], ts)
      else none
    | _ => none
  | n + 1, _, .mark '*' _ :: .word word :: ts =>
    if word == "const" || word == "mut" then
      (type? constant n false ts).map fun (target, rest) =>
        (.other (Token.lone '*' :: .word word :: target.tokens), rest)
    else none
  | n + 1, _, .mark '&' _ :: ts =>
    let (borrowed, ts) := borrow ts
    (type? constant n false ts).map fun (target, rest) =>
      (.other (Token.lone '&' :: borrowed ++ target.tokens), rest)
  | _ + 1, _, .mark '!' _ :: ts => some (.other [Token.lone '!'], ts)
  | n + 1, _, .mark '<' _ :: ts => qualified? constant n ts
  | n + 1, _, .lifetime name :: ts =>
    match bounds? constant n true false (.lifetime name :: ts) with
    | some ((true, inner), rest) => some (.other inner, rest)
    | _ => none
  | n + 1, plus, ts => if startsColons ts then pathType? constant n plus [] ts else none

/-- Reads a type that begins with a path: the path itself, a macro, or bounds. -/
def pathType? (constant : Constant) :
    (steps : Nat) → (plus : Bool) → (binder : List Token) → Reader TypeSyntax
  | 0, _, _, _ => none
  | n + 1, plus, binder, ts =>
    match path? constant n ts with
    | none => none
    | some (path, rest) =>
      if startsMark '!' rest && !startsMarks '!' '=' rest && isPlain path then
        match rest.drop 1 with
        | .group delimiter inner :: rest =>
          some (.other (path.tokens ++ [Token.lone '!', .group delimiter inner]), rest)
        | _ => none
      else if !binder.isEmpty || (plus && startsMark '+' rest) then
        if plus then
          (moreBounds? constant n rest).map fun (more, rest) =>
            (.other (binder ++ path.tokens ++ more), rest)
        else some (.other (binder ++ path.tokens), rest)
      else some (.path path.leading path.segments, rest)

/-- Reads the rest of a type whose first token is a group in parentheses. -/
def parenthesized? (constant : Constant) :
    (steps : Nat) → (plus : Bool) → (inner : List Token) → Reader TypeSyntax
  | 0, _, _, _ => none
  | _ + 1, _, [], ts => some (.other [.group .paren []], ts)
  | n + 1, plus, inner, ts =>
    match inner with
    | .lifetime _ :: _ =>
      match bounds? constant n true false inner with
      | some ((true, bounds), []) => some (.paren (.other bounds), ts)
      | _ => none
    | .mark '?' _ :: _ =>
      match traitBound? constant n inner with
      | some (bound, []) =>
        (addedBounds? constant n ts).map fun (more, rest) =>
          (.other (.group .paren bound :: more), rest)
      | _ => none
    | _ =>
      match type? constant n true inner with
      | none => none
      | some (first, []) =>
        if plus && startsMark '+' ts then
          match first with
          | .path leading segments =>
            (addedBounds? constant n ts).map fun (more, rest) =>
              (.other (.group .paren (TypeSyntax.path leading segments).tokens :: more), rest)
          | _ => some (.paren first, ts)
        else some (.paren first, ts)
      | some (first, rest) =>
        match afterMark? ',' rest with
        | none => none
        | some rest =>
          (types? constant n rest).map fun more =>
            (.other [.group .paren (first.tokens ++ Token.lone ',' :: more)], ts)

/-- The tokens of types with commas between them, which fill the whole sequence. -/
def types? (constant : Constant) : (steps : Nat) → List Token → Option (List Token)
  | 0, _ => none
  | _ + 1, [] => some []
  | n + 1, ts =>
    match type? constant n true ts with
    | some (type, []) => some type.tokens
    | some (type, rest) =>
      match afterMark? ',' rest with
      | some rest =>
        (types? constant n rest).map fun more => type.tokens ++ Token.lone ',' :: more
      | none => none
    | none => none

/-- Reads a type with a qualification, whose opening bracket has been read. -/
def qualified? (constant : Constant) : (steps : Nat) → Reader TypeSyntax
  | 0, _ => none
  | n + 1, ts =>
    match type? constant n true ts with
    | none => none
    | some (self, rest) =>
      let trait? :=
        match rest with
        | .word "as" :: rest =>
          (path? constant n rest).map fun (path, rest) => (.word "as" :: path.tokens, rest)
        | _ => some ([], rest)
      match trait? with
      | none => none
      | some (trait, rest) =>
        match (afterMark? '>' rest).bind (afterMarks? ':' ':') with
        | none => none
        | some rest =>
          (segments? constant n rest).map fun (segments, rest) =>
            (.other (Token.lone '<' :: self.tokens ++ trait ++ Token.lone '>' :: Token.colons
              ++ segmentsTokens segments), rest)

/-- Reads a function pointer. -/
def function? (constant : Constant) : (steps : Nat) → Reader (List Token)
  | 0, _ => none
  | n + 1, ts =>
    let (unchecked, ts) := optionalWord "unsafe" ts
    let (link, ts) := linkage ts
    match ts with
    | .word "fn" :: .group .paren inner :: ts =>
      match inputs? constant n true inner with
      | none => none
      | some inputs =>
        (output? constant n ts).map fun (output, rest) =>
          (unchecked ++ link ++ .word "fn" :: .group .paren inputs :: output, rest)
    | _ => none

/-- The tokens of the inputs of a function pointer, which fill the whole sequence. Only the first may
be the receiver. -/
def inputs? (constant : Constant) : (steps : Nat) → (first : Bool) → List Token →
    Option (List Token)
  | 0, _, _ => none
  | _ + 1, _, [] => some []
  | n + 1, first, ts =>
    let (attrs, ts) := attributes ts
    let (name, ts) := label first ts
    if startsEllipsis ts then
      match ts.drop 3 with
      | [] => some (attrs ++ name ++ ellipsis)
      | [.mark ',' _] => some (attrs ++ name ++ ellipsis ++ [Token.lone ','])
      | _ => none
    else
      match input? (first && name.isEmpty) (type? constant n true) ts with
      | none => none
      | some (input, []) => some (attrs ++ name ++ input)
      | some (input, rest) =>
        match afterMark? ',' rest with
        | none => none
        | some rest =>
          (inputs? constant n false rest).map fun more =>
            attrs ++ name ++ input ++ Token.lone ',' :: more

/-- Reads the result of a function, if it is there. -/
def output? (constant : Constant) : (steps : Nat) → Reader (List Token)
  | 0, _ => none
  | n + 1, ts =>
    match afterMarks? '-' '>' ts with
    | some rest =>
      (type? constant n false rest).map fun (type, rest) => (arrow ++ type.tokens, rest)
    | none => some ([], ts)

/-- Reads bounds with plus signs between them, and tells whether one of them is no lifetime. -/
def bounds? (constant : Constant) :
    (steps : Nat) → (plus captures : Bool) → Reader (Bool × List Token)
  | 0, _, _, _ => none
  | n + 1, plus, captures, ts =>
    match bound? constant n captures ts with
    | none => none
    | some ((trait, bound), rest) =>
      match if plus then afterMark? '+' rest else none with
      | none => some ((trait, bound), rest)
      | some rest =>
        if startsBound rest then
          (bounds? constant n plus captures rest).map fun ((trait', more), rest) =>
            ((trait || trait', bound ++ Token.lone '+' :: more), rest)
        else some ((trait, bound ++ [Token.lone '+']), rest)

/-- Reads bounds that are added to a path, a plus sign before each; one may stand at the end. -/
def moreBounds? (constant : Constant) : (steps : Nat) → Reader (List Token)
  | 0, _ => none
  | n + 1, ts =>
    match afterMark? '+' ts with
    | none => some ([], ts)
    | some rest =>
      if startsBound rest then
        match bound? constant n false rest with
        | none => none
        | some ((_, bound), rest) =>
          (moreBounds? constant n rest).map fun (more, rest) =>
            (Token.lone '+' :: bound ++ more, rest)
      else some ([Token.lone '+'], rest)

/-- Reads bounds that are added to a group, a plus sign before each. -/
def addedBounds? (constant : Constant) : (steps : Nat) → Reader (List Token)
  | 0, _ => none
  | n + 1, ts =>
    match afterMark? '+' ts with
    | none => some ([], ts)
    | some rest =>
      match bound? constant n false rest with
      | none => none
      | some ((_, bound), rest) =>
        (addedBounds? constant n rest).map fun (more, rest) =>
          (Token.lone '+' :: bound ++ more, rest)

/-- Reads one bound, and tells whether it is no lifetime. -/
def bound? (constant : Constant) : (steps : Nat) → (captures : Bool) → Reader (Bool × List Token)
  | 0, _, _ => none
  | _ + 1, _, .lifetime name :: ts => some ((false, [.lifetime name]), ts)
  | _ + 1, captures, .word "use" :: .mark '<' _ :: ts =>
    if captures then
      (captured? ts).map fun (inner, rest) =>
        ((false, .word "use" :: Token.lone '<' :: inner), rest)
    else none
  | n + 1, _, .group .paren inner :: ts =>
    match traitBound? constant n inner with
    | some (bound, []) => some ((true, [.group .paren bound]), ts)
    | _ => none
  | n + 1, _, ts => (traitBound? constant n ts).map fun (bound, rest) => ((true, bound), rest)

/-- Reads a bound that is no lifetime: a path, possibly with inputs and a result. -/
def traitBound? (constant : Constant) : (steps : Nat) → Reader (List Token)
  | 0, _ => none
  | n + 1, ts =>
    match binder? ts with
    | none => none
    | some (binder, ts) =>
      let (relaxed, ts) := optionalMark '?' ts
      match if binder.isEmpty && !relaxed.isEmpty then binder? ts else some (binder, ts) with
      | none => none
      | some (binder, ts) =>
        match path? constant n ts with
        | none => none
        | some (path, rest) =>
          let head := relaxed ++ binder ++ path.tokens
          let bare := (path.segments.getLast?.map fun s => s.arguments.isEmpty).getD true
          match if bare then (afterMarks? ':' ':' rest).getD rest else [] with
          | .group .paren inner :: rest =>
            match types? constant n inner with
            | none => none
            | some inputs =>
              (output? constant n rest).map fun (output, rest) =>
                (head ++ .group .paren inputs :: output, rest)
          | _ => some (head, rest)

/-- Reads a path. -/
def path? (constant : Constant) : (steps : Nat) → Reader Path
  | 0, _ => none
  | n + 1, ts =>
    match afterMarks? ':' ':' ts with
    | some rest => (segments? constant n rest).map fun (segments, rest) => (⟨true, segments⟩, rest)
    | none => (segments? constant n ts).map fun (segments, rest) => (⟨false, segments⟩, rest)

/-- Reads the steps of a path. -/
def segments? (constant : Constant) : (steps : Nat) → Reader (List Segment)
  | 0, _ => none
  | n + 1, ts =>
    match segment? constant n ts with
    | none => none
    | some (segment, rest) =>
      match afterMarks? ':' ':' rest with
      | none => some ([segment], rest)
      | some after =>
        if startsParen after then some ([segment], rest)
        else (segments? constant n after).map fun (more, rest) => (segment :: more, rest)

/-- Reads one step of a path. -/
def segment? (constant : Constant) : (steps : Nat) → Reader Segment
  | 0, _ => none
  | n + 1, .word word :: ts =>
    if word == "super" || word == "self" || word == "crate" || word == "try" then
      some (.mk word .none, ts)
    else if isIdentifier word || word == "Self" then
      match if startsMarks '<' '=' ts then none else afterMark? '<' ts with
      | some rest =>
        (arguments? constant n rest).map fun ((items, trailing), rest) =>
          (.mk word (.angled false items trailing), rest)
      | none =>
        match (afterMarks? ':' ':' ts).bind (afterMark? '<') with
        | some rest =>
          (arguments? constant n rest).map fun ((items, trailing), rest) =>
            (.mk word (.angled true items trailing), rest)
        | none => some (.mk word .none, ts)
    else none
  | _ + 1, _ => none

/-- Reads arguments up to the closing bracket, and tells whether a comma stands before it. -/
def arguments? (constant : Constant) : (steps : Nat) → Reader (List Argument × Bool)
  | 0, _ => none
  | n + 1, ts =>
    match afterMark? '>' ts with
    | some rest => some (([], false), rest)
    | none =>
      match argument? constant n ts with
      | none => none
      | some (argument, rest) =>
        match afterMark? '>' rest with
        | some rest => some (([argument], false), rest)
        | none =>
          match afterMark? ',' rest with
          | none => none
          | some rest =>
            (arguments? constant n rest).map fun ((items, trailing), rest) =>
              ((argument :: items, trailing || items.isEmpty), rest)

/-- Reads one argument. -/
def argument? (constant : Constant) : (steps : Nat) → Reader Argument
  | 0, _ => none
  | n + 1, ts =>
    match ts with
    | .lifetime name :: rest =>
      if startsMark '+' rest then
        (type? constant n true ts).map fun (type, rest) => (.type type, rest)
      else some (.lifetime name, rest)
    | .group .brace inner :: rest =>
      if constant [.group .brace inner] then some (.other [.group .brace inner], rest) else none
    | _ =>
      match literal? ts with
      | some (literal, rest) => some (.other literal, rest)
      | none =>
        match type? constant n true ts with
        | none => none
        | some (type, rest) =>
          if isArgumentName type then
            match afterMark? '=' rest with
            | some rest => (given? constant n rest).map fun (value, rest) =>
                (.other (type.tokens ++ Token.lone '=' :: value), rest)
            | none =>
              match afterMark? ':' rest with
              | some rest => (argumentBounds? constant n rest).map fun (bounds, rest) =>
                  (.other (type.tokens ++ Token.lone ':' :: bounds), rest)
              | none => some (.type type, rest)
          else some (.type type, rest)

/-- Reads what an argument is given by name: a constant or a type. -/
def given? (constant : Constant) : (steps : Nat) → Reader (List Token)
  | 0, _ => none
  | n + 1, ts =>
    match ts with
    | .group .brace inner :: rest =>
      if constant [.group .brace inner] then some ([.group .brace inner], rest) else none
    | _ =>
      match literal? ts with
      | some (literal, rest) => some (literal, rest)
      | none => (type? constant n true ts).map fun (type, rest) => (type.tokens, rest)

/-- Reads the bounds of an argument, which end at a comma or at the closing bracket. -/
def argumentBounds? (constant : Constant) : (steps : Nat) → Reader (List Token)
  | 0, _ => none
  | n + 1, ts =>
    if startsMark ',' ts || startsMark '>' ts then some ([], ts)
    else
      match bound? constant n false ts with
      | none => none
      | some ((_, bound), rest) =>
        match afterMark? '+' rest with
        | none => some (bound, rest)
        | some rest =>
          (argumentBounds? constant n rest).map fun (more, rest) =>
            (bound ++ Token.lone '+' :: more, rest)

end

/-- A number of steps that suffices to read the tokens. -/
def stepsFor (ts : List Token) : Nat := 8 * Token.count ts + 16

end Specimen.Source.Grammar

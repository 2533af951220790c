import Specimen.Yaml.Token.Scalar

/-!
# Names, tags and directives

The small forms of a document that stand beside its values: names of anchors and aliases, tags in
front of values, and the directives in front of a document. As for scalars, every reader takes the
text from its form on and returns the rest.
-/

namespace Specimen.Yaml.Property

open Specimen.Text

/-- The letters of names and handles. -/
def isNameChar (c : Char) : Bool := c.isAlphanum || c == '_' || c == '-'

/-- Whether one of some characters comes next. -/
def isNext (marks : String) : List Char → Bool
  | c :: _ => marks.toList.contains c
  | [] => false

/-- Reads the name of an anchor or an alias. -/
def name? (cs : List Char) : Option (String × List Char) :=
  let name := cs.takeWhile isNameChar
  let rest := cs.dropWhile isNameChar
  if name.isEmpty || !(isOver rest || isNext "?:,]\x7d%@\x60" rest) then none
  else some (String.ofList name, rest)

/-! ## Tags -/

/-- The letters of a tag; brackets and commas only where they cannot be mistaken. -/
def isTagChar (everywhere : Bool) (c : Char) : Bool :=
  isNameChar c || ";/?:@&=+$.%!~*'()".toList.contains c || (everywhere && ",[]".toList.contains c)

/-- The number of bytes of a character by its first byte. -/
def byteCount? (b : Nat) : Option Nat :=
  if b < 0x80 then some 1
  else if 0xC0 ≤ b && b < 0xE0 then some 2
  else if 0xE0 ≤ b && b < 0xF0 then some 3
  else if 0xF0 ≤ b && b < 0xF8 then some 4
  else none

/-- Reads a byte that is written as a percent sign and two digits. -/
def byte? : List Char → Option (Nat × List Char)
  | '%' :: a :: b :: cs => (readBase? 16 [a, b]).map fun n => (n, cs)
  | _ => none

/-- Reads the further bytes of a character. -/
def moreBytes? : (count : Nat) → (acc : Nat) → List Char → Option (Nat × List Char)
  | 0, acc, cs => some (acc, cs)
  | count + 1, acc, cs =>
    match byte? cs with
    | some (b, rest) =>
      if 0x80 ≤ b && b < 0xC0 then moreBytes? count (acc * 64 + (b - 0x80)) rest else none
    | none => none

/-- Reads a character that is written as bytes. -/
def escapedChar? (cs : List Char) : Option (Char × List Char) :=
  match byte? cs with
  | none => none
  | some (b, rest) =>
    match byteCount? b with
    | none => none
    | some count =>
      let first := if count = 1 then b else b % Nat.pow 2 (7 - count)
      (moreBytes? (count - 1) first rest).bind fun (n, rest) =>
        (Scalar.charOf? n).map fun c => (c, rest)

/-- Reads the letters of a tag. -/
def tagText? (everywhere : Bool) : (fuel : Nat) → List Char → Option (List Char × List Char)
  | 0, _ => none
  | _ + 1, [] => some ([], [])
  | fuel + 1, c :: cs =>
    if !isTagChar everywhere c then some ([], c :: cs)
    else if c == '%' then
      (escapedChar? (c :: cs)).bind fun (d, rest) =>
        (tagText? everywhere fuel rest).map (Scalar.prepend [d])
    else (tagText? everywhere fuel cs).map (Scalar.prepend [c])

/-- Reads letters of a tag of which there has to be one. -/
def someTagText? (everywhere : Bool) (cs : List Char) : Option (List Char × List Char) :=
  (tagText? everywhere (cs.length + 1) cs).filter fun (text, _) => !text.isEmpty

/-- Reads a tag: spelled out between angle brackets, behind a handle, or local. A lone exclamation
mark is the suffix of an empty handle. -/
def tag? (inBrackets : Bool) (cs : List Char) : Option (String × String × List Char) :=
  let parts? : Option (String × String × List Char) := match cs with
    | '!' :: '<' :: body =>
      match someTagText? true body with
      | some (suffix, '>' :: rest) => some ("", String.ofList suffix, rest)
      | _ => none
    | '!' :: body =>
      let name := body.takeWhile isNameChar
      match body.dropWhile isNameChar with
      | '!' :: behind =>
        (someTagText? false behind).map fun (suffix, rest) =>
          (String.ofList ('!' :: (name ++ ['!'])), String.ofList suffix, rest)
      | _ =>
        (tagText? false (body.length + 1) body).map fun (suffix, rest) =>
          if suffix.isEmpty then ("", "!", rest) else ("!", String.ofList suffix, rest)
    | _ => none
  parts?.filter fun (_, _, rest) => (inBrackets && rest.head? == some ',') || isOver rest

/-! ## Directives -/

/-- A directive in front of a document. -/
inductive Directive where
  | version (major minor : Nat)
  | shorthand (handle expansion : String)
  deriving DecidableEq, Repr

/-- Reads a part of a version number, of at most nine digits. -/
def versionPart? (cs : List Char) : Option (Nat × List Char) :=
  let ds := cs.takeWhile Char.isDigit
  if ds.length > 9 then none
  else (readDecimal? ds).map fun n => (n, cs.dropWhile Char.isDigit)

/-- Reads a version. -/
def version? (cs : List Char) : Option (Directive × List Char) :=
  match versionPart? (cs.dropWhile isGap) with
  | some (major, '.' :: rest) =>
    (versionPart? rest).map fun (minor, rest) => (.version major minor, rest)
  | _ => none

/-- Reads a handle: an exclamation mark, or letters between two of them. -/
def handle? : List Char → Option (String × List Char)
  | '!' :: cs =>
    let name := cs.takeWhile isNameChar
    match cs.dropWhile isNameChar with
    | '!' :: rest => some (String.ofList ('!' :: (name ++ ['!'])), rest)
    | rest => if name.isEmpty then some ("!", rest) else none
  | _ => none

/-- Reads a short form for tags. -/
def shorthand? (cs : List Char) : Option (Directive × List Char) :=
  match handle? (cs.dropWhile isGap) with
  | some (handle, c :: rest) =>
    if !isGap c then none
    else
      match someTagText? true (rest.dropWhile isGap) with
      | some (expansion, rest) =>
        if isOver rest then some (.shorthand handle (String.ofList expansion), rest) else none
      | none => none
  | _ => none

/-- Reads a directive behind its percent sign, up to the end of its line. -/
def directive? (cs : List Char) : Option (Directive × List Char) :=
  let name := String.ofList (cs.takeWhile isNameChar)
  let rest := cs.dropWhile isNameChar
  let read? :=
    if !isOver rest then none
    else if name = "YAML" then version? rest
    else if name = "TAG" then shorthand? rest
    else none
  read?.bind fun (directive, rest) =>
    let rest := rest.dropWhile isGap
    let rest := if rest.head? == some '#' then rest.dropWhile fun c => !isBreak c else rest
    match rest with
    | [] => some (directive, [])
    | c :: _ => if isBreak c then some (directive, Scalar.skipBreak rest) else none

end Specimen.Yaml.Property

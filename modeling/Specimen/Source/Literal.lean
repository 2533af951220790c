import Specimen.Text.Numeral
import Specimen.Text.Split
import Specimen.Text.Word

/-!
# Literals of source text

Where a literal ends. Every function here takes the text from some point inside a literal on and
gives the text behind it, or nothing if there is no literal: texts, byte strings and terminated
strings, each with escapes or raw; characters and bytes; whole and fractional numbers. A suffix
belongs to its literal.
-/

namespace Specimen.Source.Literal

open Specimen.Text

/-- What kind of text stands between the quotes. -/
inductive Kind where
  | text
  | bytes
  | terminated
  deriving DecidableEq, Repr

/-- The text without a word at its front. -/
def dropSuffix (cs : List Char) : List Char :=
  match takeWord? cs with
  | some (_, rest) => rest
  | none => cs

/-! ## Escapes -/

/-- Whether a number is that of a character. -/
def isScalarValue (n : Nat) : Bool := n < 0xD800 || (0xDFFF < n && n < 0x110000)

/-- Reads the digits of `\u\x7b…\x7d` and the brace after them: up to six of them, with underscores
between. -/
def afterUnicode? : (digits value : Nat) → List Char → Option (Nat × List Char)
  | _, _, [] => none
  | digits, value, c :: cs =>
    if digits > 0 ∧ c = '\x7d' then if isScalarValue value then some (value, cs) else none
    else if digits > 0 ∧ c = '_' then afterUnicode? digits value cs
    else
      match digitValue? 16 c with
      | some d => if digits = 6 then none else afterUnicode? (digits + 1) (value * 16 + d) cs
      | none => none

/-- Whether two digits of `\x` may stand in a literal of the kind. -/
def allowsByte (kind : Kind) (high low : Char) : Bool :=
  match digitValue? 16 high, digitValue? 16 low with
  | some h, some l =>
    match kind with
    | .text => h < 8
    | .bytes => true
    | .terminated => 0 < h || 0 < l
  | _, _ => false

/-- Whether a character may follow a backslash by itself. -/
def allowsSimple (kind : Kind) (c : Char) : Bool :=
  c == 'n' || c == 'r' || c == 't' || c == '\\' || c == '\'' || c == '"'
    || (c == '0' && kind != .terminated)

/-- Whether a character may stand in a literal of the kind as it is. -/
def allowsPlain (kind : Kind) (c : Char) : Bool :=
  match kind with
  | .text => true
  | .bytes => c.toNat < 0x80
  | .terminated => c.toNat ≠ 0

/-- The text behind the escape whose backslash has been read. -/
def afterEscape? (kind : Kind) : List Char → Option (List Char)
  | 'x' :: high :: low :: cs => if allowsByte kind high low then some cs else none
  | 'u' :: '\x7b' :: cs =>
    if kind = .bytes then none
    else
      match afterUnicode? 0 0 cs with
      | some (value, rest) => if kind = .terminated ∧ value = 0 then none else some rest
      | none => none
  | c :: cs => if allowsSimple kind c then some cs else none
  | [] => none

/-! ## Texts -/

/-- The text behind the closing quote of a literal with escapes. A backslash at the end of a line
joins it with the next. -/
def afterQuote? (kind : Kind) : (fuel : Nat) → List Char → Option (List Char)
  | 0, _ => none
  | _ + 1, [] => none
  | _ + 1, '"' :: cs => some cs
  | fuel + 1, '\r' :: '\n' :: cs => afterQuote? kind fuel cs
  | _ + 1, '\r' :: _ => none
  | fuel + 1, '\\' :: '\n' :: cs => afterQuote? kind fuel cs
  | fuel + 1, '\\' :: '\r' :: '\n' :: cs => afterQuote? kind fuel cs
  | fuel + 1, '\\' :: cs =>
    match afterEscape? kind cs with
    | some rest => afterQuote? kind fuel rest
    | none => none
  | fuel + 1, c :: cs => if allowsPlain kind c then afterQuote? kind fuel cs else none

/-- The text behind the closing quote of a raw literal, which has `fence` after it. -/
def afterFence? (kind : Kind) (fence : List Char) : List Char → Option (List Char)
  | [] => none
  | '"' :: cs =>
    match dropFront? fence cs with
    | some rest => some rest
    | none => afterFence? kind fence cs
  | '\r' :: '\n' :: cs => afterFence? kind fence cs
  | '\r' :: _ => none
  | c :: cs => if allowsPlain kind c then afterFence? kind fence cs else none

/-- The text behind a raw literal whose letters have been read. -/
def afterRaw? (kind : Kind) (cs : List Char) : Option (List Char) :=
  let fence := cs.takeWhile (· == '#')
  match cs.dropWhile (· == '#') with
  | '"' :: rest => if fence.length ≤ 255 then afterFence? kind fence rest else none
  | _ => none

/-- The text behind the closing apostrophe of a character or a byte. -/
def afterCharacter? (kind : Kind) (cs : List Char) : Option (List Char) :=
  let rest? :=
    match cs with
    | '\\' :: rest => afterEscape? kind rest
    | c :: rest => if allowsPlain kind c then some rest else none
    | [] => none
  match rest? with
  | some ('\'' :: rest) => some rest
  | _ => none

/-! ## Numbers -/

/-- Whether a character is a decimal digit. -/
def isDigit (c : Char) : Bool := c.isDigit

/-- Whether a character may stand among decimal digits. -/
def isDigitOrGap (c : Char) : Bool := c.isDigit || c == '_'

/-- Drops a suffix; what then follows must not continue a word. -/
def endNumber? (cs : List Char) : Option (List Char) :=
  match dropSuffix cs with
  | c :: rest => if isWordPart c then none else some (c :: rest)
  | [] => some []

/-- The text behind an exponent whose letter has been read; `signed` and `valued` tell whether a
sign and a digit have been. -/
def afterExponent? : (signed valued : Bool) → List Char → Option (List Char)
  | _, valued, [] => if valued then some [] else none
  | signed, valued, c :: cs =>
    if c = '+' ∨ c = '-' then
      if valued then some (c :: cs) else if signed then none else afterExponent? true valued cs
    else if isDigit c then afterExponent? signed true cs
    else if c = '_' then afterExponent? signed valued cs
    else if valued then some (c :: cs) else none

/-- Whether a text begins an exponent. -/
def startsExponent : List Char → Bool
  | 'e' :: _ => true
  | 'E' :: _ => true
  | _ => false

/-- Whether the text after a point makes the point something else than a decimal point. -/
def refusesPoint : List Char → Bool
  | c :: _ => c == '.' || isWordStart c
  | [] => false

/-- The text behind a fractional number, which has a point or an exponent. An exponent without
digits is a suffix. -/
def afterFraction? (cs : List Char) : Option (List Char) :=
  match cs with
  | [] => none
  | c :: _ =>
    if !isDigit c then none
    else
      match cs.dropWhile isDigitOrGap with
      | '.' :: rest =>
        if refusesPoint rest then none
        else
          let tail := rest.dropWhile isDigitOrGap
          if startsExponent tail then
            endNumber? ((afterExponent? false false (tail.drop 1)).getD tail)
          else endNumber? tail
      | rest =>
        if startsExponent rest then
          (afterExponent? false false (rest.drop 1)).bind endNumber?
        else none

/-- Reads digits of a base, with underscores between them; `empty` tells whether no digit has been
read yet. A decimal digit that is too great for the base spoils the number, a letter ends it. -/
def afterDigits? (base : Nat) : (empty : Bool) → List Char → Option (List Char)
  | empty, [] => if empty then none else some []
  | empty, c :: cs =>
    if c = '_' then if empty ∧ base = 10 then none else afterDigits? base empty cs
    else
      match digitValue? base c with
      | some _ => afterDigits? base false cs
      | none => if isDigit c ∨ empty then none else some (c :: cs)

/-- The text behind a whole number in base two, eight, ten or sixteen. -/
def afterInteger? (cs : List Char) : Option (List Char) :=
  let rest? :=
    match cs with
    | '0' :: 'x' :: rest => afterDigits? 16 true rest
    | '0' :: 'o' :: rest => afterDigits? 8 true rest
    | '0' :: 'b' :: rest => afterDigits? 2 true rest
    | _ => afterDigits? 10 true cs
  rest?.bind endNumber?

/-! ## Any literal -/

/-- The text behind a literal other than a number, its suffix included. -/
def afterQuoted? (cs : List Char) : Option (List Char) :=
  let rest? :=
    match cs with
    | '"' :: rest => afterQuote? .text (rest.length + 1) rest
    | 'r' :: rest => afterRaw? .text rest
    | 'b' :: '"' :: rest => afterQuote? .bytes (rest.length + 1) rest
    | 'b' :: 'r' :: rest => afterRaw? .bytes rest
    | 'c' :: '"' :: rest => afterQuote? .terminated (rest.length + 1) rest
    | 'c' :: 'r' :: rest => afterRaw? .terminated rest
    | 'b' :: '\'' :: rest => afterCharacter? .bytes rest
    | '\'' :: rest => afterCharacter? .text rest
    | _ => none
  rest?.map dropSuffix

/-- The text behind the literal that the text begins with. -/
def after? (cs : List Char) : Option (List Char) :=
  match afterQuoted? cs with
  | some rest => some rest
  | none =>
    match afterFraction? cs with
    | some rest => some rest
    | none => afterInteger? cs

end Specimen.Source.Literal

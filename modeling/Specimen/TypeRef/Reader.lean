import Specimen.Reasons
import Specimen.Source.Reader
import Specimen.Text.Blank
import Specimen.TypeRef

/-!
# Types from text

A type text is a type of the language samples are generated for. It stands for a list, a map or a
scalar if the last name of its path is that of one, whatever the path before it, and for a reference
otherwise. Parentheses around a type do not count. Arguments may only follow the last name of a path;
a scalar takes none but a timestamp, which may name its time zone; and types that are no path, or
that take arguments and are not known, have no samples.

An arity is checked after the arguments have been found to be types, and before they are read.
-/

namespace Specimen.TypeRef

open Specimen.Source

/-- Why a text gives no type reference. -/
inductive ReadError where
  | empty
  | invalid (input : String)
  /-- The type is no path. -/
  | unsupported (text : String)
  | wrongArity (name : String) (expected found : Nat)
  /-- The type takes arguments and is not known. -/
  | unsupportedGenerics (path : String)
  deriving DecidableEq, Repr

/-- The wording of an error. -/
def ReadError.message [Reasons] : ReadError → String
  | .empty => "empty type"
  | .invalid input => s!"invalid type '{input}'" ++ Reasons.ending (Reasons.ofType input)
  | .unsupported text => s!"type '{text}' is not supported"
  | .wrongArity name expected found =>
    s!"'{name}' expects {expected} type argument(s), found {found}"
  | .unsupportedGenerics path => s!"generic type '{path}' is not supported"

/-- What the last name of a path stands for. -/
inductive Named where
  | array
  | mapping (kind : MapKind)
  | scalar (kind : ScalarKind)
  | other

/-- Looks up the last name of a path. -/
def named (name : String) : Named :=
  if name = "Vec" then .array
  else
    match MapKind.ofTypeName? name with
    | some kind => .mapping kind
    | none =>
      match ScalarKind.ofTypeName? name with
      | some kind => .scalar kind
      | none => .other

/-- The type that a name stands for, given what its arguments stand for. `path` is the whole path. -/
def apply (path name : String) (arguments : List (Except ReadError TypeRef)) :
    Except ReadError TypeRef :=
  match named name, arguments with
  | .array, [element] => do return .array (← element)
  | .array, _ => .error (.wrongArity name 1 arguments.length)
  | .mapping kind, [key, value] => do
    let key ← key
    let value ← value
    return .mapping kind key value
  | .mapping _, _ => .error (.wrongArity name 2 arguments.length)
  | .scalar kind, [] => .ok (.scalar kind)
  | .scalar .dateTime, [_] => .ok (.scalar .dateTime)
  | .scalar _, _ => .error (.wrongArity name 0 arguments.length)
  | .other, [] => .ok (.reference path)
  | .other, _ => .error (.unsupportedGenerics path)

mutual

/-- The type that a written type stands for. -/
def ofSyntax : TypeSyntax → Except ReadError TypeRef
  | .paren inner => ofSyntax inner
  | .other tokens => .error (.unsupported (Token.text tokens))
  | .path leading segments =>
    let path := pathText leading segments
    match segments.getLast? with
    | none => .error .empty
    | some last =>
      if !segments.dropLast.all fun segment => segment.arguments.isNone then
        .error (.unsupportedGenerics path)
      else
        match lastArguments? segments with
        | none => .error (.unsupportedGenerics path)
        | some arguments => apply path last.name arguments

/-- What the arguments after the last name of a path stand for, if all of them are types. -/
def lastArguments? : List Segment → Option (List (Except ReadError TypeRef))
  | [] => some []
  | [segment] => segmentArguments? segment
  | _ :: rest => lastArguments? rest

/-- What the arguments of a step stand for, if all of them are types. -/
def segmentArguments? : Segment → Option (List (Except ReadError TypeRef))
  | .mk _ arguments => argumentTypes? arguments

/-- What the arguments between brackets stand for, if all of them are types. -/
def argumentTypes? : Arguments → Option (List (Except ReadError TypeRef))
  | .none => some []
  | .angled _ items _ => itemTypes? items

/-- What arguments stand for, if all of them are types. -/
def itemTypes? : List Argument → Option (List (Except ReadError TypeRef))
  | [] => some []
  | item :: rest =>
    match itemType? item, itemTypes? rest with
    | some type, some types => some (type :: types)
    | _, _ => none

/-- What an argument stands for, if it is a type. -/
def itemType? : Argument → Option (Except ReadError TypeRef)
  | .type type => some (ofSyntax type)
  | _ => none

end

/-- Reads a type from text. -/
def read (text : String) : Except ReadError TypeRef :=
  if (Text.trim text.toList).isEmpty then .error .empty
  else
    match Source.type? text with
    | none => .error (.invalid text)
    | some type => ofSyntax type

end Specimen.TypeRef

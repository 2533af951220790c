import Specimen.Text.Split

/-!
# Absolute addresses

An address is kept as the text it was read from. Reading checks that it has the form
`scheme://host…`: the scheme is an ASCII letter followed by letters, digits, `+`, `-` or `.`, and
something stands where the host begins. The host ends at the first `/`, `?`, `#` or `:`. Nothing
else is checked.
-/

namespace Specimen.Data

open Specimen.Text

/-- An absolute address. -/
structure Url where
  /-- The whole address. -/
  text : String
  deriving DecidableEq, Repr

/-- The part of an address that is wrong. -/
inductive UrlError where
  | missingScheme (url : String)
  | invalidScheme (url scheme : String)
  | missingHost (url : String)
  deriving DecidableEq, Repr

/-- The wording of an error. -/
def UrlError.message : UrlError → String
  | .missingScheme url => s!"missing '://' in '{url}'"
  | .invalidScheme url scheme => s!"invalid scheme '{scheme}' in '{url}'"
  | .missingHost url => s!"missing host in '{url}'"

namespace Url

/-- What stands between the scheme and the host. -/
def mark : List Char := [':', '/', '/']

/-- Characters that a scheme may have after its first. -/
def isSchemePart (c : Char) : Bool := c.isAlphanum || c == '+' || c == '-' || c == '.'

/-- A scheme is a letter followed by letters, digits and three signs. -/
def isScheme : List Char → Bool
  | [] => false
  | c :: cs => c.isAlpha && cs.all isSchemePart

/-- Characters that end a host and begin a path, a query or a fragment. -/
def startsTail (c : Char) : Bool := c == '/' || c == '?' || c == '#'

/-- Characters that end a host. -/
def endsHost (c : Char) : Bool := startsTail c || c == ':'

/-- Whether nothing stands where a host should begin. -/
def lacksHost : List Char → Bool
  | [] => true
  | c :: _ => startsTail c

/-- Reads an address, naming the first part that is wrong. -/
def parse (url : String) : Except UrlError Url :=
  match splitFirst? mark url.toList with
  | none => .error (.missingScheme url)
  | some (scheme, rest) =>
    if !isScheme scheme then .error (.invalidScheme url (String.ofList scheme))
    else if lacksHost rest then .error (.missingHost url)
    else .ok ⟨url⟩

/-- The part before `://`. -/
def scheme (url : Url) : String :=
  match splitFirst? mark url.text.toList with
  | some (scheme, _) => String.ofList scheme
  | none => ""

/-- The host, without port, path or query. -/
def host (url : Url) : String :=
  match splitFirst? mark url.text.toList with
  | some (_, rest) => String.ofList (rest.takeWhile fun c => !endsHost c)
  | none => ""

end Url

end Specimen.Data

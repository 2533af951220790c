import Specimen.Generation.Preparation

/-!
# Types that refer back to themselves

Among the declarations that have passed their own checks, one refers to another when its shape does. A
declaration from which such steps lead back to itself cannot have samples, since they would have to be
made first.

The search keeps a stack of declarations to look at, with the way that led to each, and the names it
has met. Every name gets on the stack at most once, so as many rounds as there are declarations, and
one more for the start, are enough.
-/

namespace Specimen

namespace Cycle

/-- The names that each name refers to. -/
abbrev Graph := List (String × List String)

/-- The graph of declarations. -/
def graph (entries : List Prepared) : Graph := entries.map fun entry => (entry.name, entry.keys)

/-- The names that a name refers to. -/
def next (g : Graph) (name : String) : List String := (g.lookup name).getD []

/-- Whether a name has a place in the graph. -/
def hasNode (g : Graph) (name : String) : Bool := (g.lookup name).isSome

/-- What a search has met, and what it has still to look at. -/
structure Search where
  met : List String
  stack : List (String × List String)

/-- Meets a name that the last name of a way refers to. -/
def Search.meet (g : Graph) (way : List String) (search : Search) (name : String) : Search :=
  if hasNode g name && !search.met.contains name then
    ⟨name :: search.met, (name, way ++ [name]) :: search.stack⟩
  else search

/-- The way from `start` back to itself that the search finds. -/
def search (g : Graph) (start : String) : (rounds : Nat) → Search → Option (List String)
  | 0, _ => none
  | rounds + 1, s =>
    match s.stack with
    | [] => none
    | (name, way) :: stack =>
      if (next g name).contains start then some (way ++ [start])
      else search g start rounds ((next g name).foldl (Search.meet g way) { s with stack })

/-- A way from a name back to itself. -/
def wayBack? (g : Graph) (start : String) : Option (List String) :=
  search g start (g.length + 1) ⟨[], [(start, [start])]⟩

/-- The diagnostic of a declaration that refers back to itself. -/
def diagnostic? (g : Graph) (name : String) : Option Diagnostic :=
  (wayBack? g name).map fun way =>
    .ofFault (.cyclicReference name (" -> ".intercalate way)) ⟨name, none⟩

/-- The diagnostics of all declarations that refer back to themselves. -/
def diagnostics (entries : List Prepared) : List Diagnostic :=
  entries.filterMap fun entry => diagnostic? (graph entries) entry.name

end Cycle

end Specimen

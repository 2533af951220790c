/-!
# Cutting text at a separator

The searches that the readers of this library share. Each takes and returns lists of characters.
`splitFirst?` cuts at the first occurrence of a separator, `afterLast` keeps what follows the last
one, occurrences that overlap counted.

Main statement: a cut loses nothing (`splitFirst?_eq_some`).
-/

namespace Specimen.Text

/-- The rest of `cs` after `front`, if `cs` begins with `front`. -/
def dropFront? : (front cs : List Char) → Option (List Char)
  | [], cs => some cs
  | _ :: _, [] => none
  | f :: front, c :: cs => if f = c then dropFront? front cs else none

/-- What stands before `back`, if `cs` ends with `back`. -/
def dropBack? (back cs : List Char) : Option (List Char) :=
  (dropFront? back.reverse cs.reverse).map List.reverse

/-- What stands before and after the first occurrence of `sep`. -/
def splitFirst? (sep : List Char) : List Char → Option (List Char × List Char)
  | [] => (dropFront? sep []).map fun rest => ([], rest)
  | c :: cs =>
    match dropFront? sep (c :: cs) with
    | some rest => some ([], rest)
    | none => (splitFirst? sep cs).map fun (before, after) => (c :: before, after)

/-- What follows the last occurrence of `sep`, or `best` if there is none. -/
def afterLastOr (sep : List Char) : (best cs : List Char) → List Char
  | best, [] => best
  | best, c :: cs => afterLastOr sep ((dropFront? sep (c :: cs)).getD best) cs

/-- What follows the last occurrence of `sep`; all of `cs` if there is none. -/
def afterLast (sep cs : List Char) : List Char := afterLastOr sep cs cs

theorem dropFront?_eq_some {front cs rest : List Char} (h : dropFront? front cs = some rest) :
    cs = front ++ rest := by
  induction front generalizing cs with
  | nil => simpa [dropFront?] using h
  | cons f front ih =>
    cases cs with
    | nil => simp [dropFront?] at h
    | cons c cs =>
      simp only [dropFront?] at h
      split at h
      · rename_i hfc
        rw [ih h, hfc, List.cons_append]
      · simp at h

/-- A beginning that is there is dropped. -/
@[simp] theorem dropFront?_append (front rest : List Char) :
    dropFront? front (front ++ rest) = some rest := by
  induction front with
  | nil => rfl
  | cons f front ih => simp [dropFront?, ih]

/-- A cut at a separator loses nothing. -/
theorem splitFirst?_eq_some {sep cs before after : List Char}
    (h : splitFirst? sep cs = some (before, after)) : cs = before ++ sep ++ after := by
  induction cs generalizing before with
  | nil =>
    simp only [splitFirst?, Option.map_eq_some_iff, Prod.mk.injEq] at h
    obtain ⟨rest, hrest, rfl, rfl⟩ := h
    simpa using dropFront?_eq_some hrest
  | cons c cs ih =>
    simp only [splitFirst?] at h
    split at h
    · rename_i rest hrest
      simp only [Option.some.injEq, Prod.mk.injEq] at h
      obtain ⟨rfl, rfl⟩ := h
      simpa using dropFront?_eq_some hrest
    · simp only [Option.map_eq_some_iff, Prod.mk.injEq, Prod.exists] at h
      obtain ⟨b, a, hba, rfl, rfl⟩ := h
      simp [ih hba]

end Specimen.Text

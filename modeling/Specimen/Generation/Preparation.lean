import Specimen.Schema
import Specimen.Shape.Extraction

/-!
# Checking declarations

Before any samples are made, every declaration is checked on its own: its kind and its count, the
categories on its members, its shape, and the types that the shape refers to. The checks come in this
order, and the first that finds errors is the last that is made; it reports all that it finds.

Main statement: a declaration passes exactly when no error has been reported for it
(`prepare_snd_eq_none_iff`).
-/

namespace Specimen

/-- A declaration that has passed its own checks. -/
structure Prepared where
  declaration : Declaration
  shape : Shape
  mode : Mode
  deriving DecidableEq, Repr

namespace Prepared

/-- The name of the declaration. -/
def name (entry : Prepared) : String := entry.declaration.name

/-- The keys of the types that the shape refers to. -/
def keys (entry : Prepared) : List String := entry.shape.references.map typeKey

end Prepared

namespace Schema

/-- Whether a path refers to something that the schema knows. -/
def knows (schema : Schema) (path : String) : Bool :=
  (schema.find? path).isSome || schema.isExternal path

/-- What is to be said about the references of a parameter: those that are not known. -/
def unknownReferences (schema : Schema) (type : String) (parameter : Parameter) :
    List Diagnostic :=
  (parameter.type.references.filter fun path => !schema.knows path).map fun path =>
    .ofFault (.typeNotSupported path) ⟨type, parameter.name⟩

/-- What is to be said about the references of a shape. -/
def shapeDiagnostics (schema : Schema) (type : String) (shape : Shape) : List Diagnostic :=
  shape.parameters.flatMap (schema.unknownReferences type)

/-- Checks a declaration. The result is what is to be said about it, and the declaration with its
shape if it passes. -/
def prepare (schema : Schema) (declaration : Declaration) : List Diagnostic × Option Prepared :=
  let name := declaration.name
  let count := declaration.sample.count
  let mode := schema.modeOf declaration
  match declaration.checkKind with
  | .error fault => ([.ofFault fault ⟨name, none⟩], none)
  | .ok () =>
    if count ≤ 0 then ([.ofFault (.countNotPositive count) ⟨name, none⟩], none)
    else
      let categories := declaration.categoryDiagnostics mode
      if categories.any Diagnostic.isError then (categories, none)
      else
        match declaration.shape with
        | .error error => (categories ++ [error.diagnostic name], none)
        | .ok shape =>
          match schema.shapeDiagnostics name shape with
          | [] => (categories, some ⟨declaration, shape, mode⟩)
          | unknown => (categories ++ unknown, none)

/-- Unknown references are errors. -/
theorem isError_of_mem_shapeDiagnostics {schema : Schema} {type : String} {shape : Shape}
    {d : Diagnostic} (h : d ∈ schema.shapeDiagnostics type shape) : d.isError = true := by
  simp only [shapeDiagnostics, unknownReferences, List.mem_flatMap, List.mem_map] at h
  obtain ⟨_, _, _, _, rfl⟩ := h
  rfl

/-- A declaration fails its checks exactly when one of its diagnostics is an error. -/
theorem prepare_snd_eq_none_iff (schema : Schema) (declaration : Declaration) :
    (schema.prepare declaration).2 = none ↔
      ∃ d ∈ (schema.prepare declaration).1, d.isError = true := by
  unfold prepare
  split
  · simp [Diagnostic.isError, Diagnostic.severity, Diagnostic.ofFault]
  · dsimp only
    split
    · simp [Diagnostic.isError, Diagnostic.severity, Diagnostic.ofFault]
    · split
      · rename_i h
        simpa using h
      · rename_i h
        split
        · simp [ShapeError.diagnostic, Diagnostic.isError, Diagnostic.severity,
            Diagnostic.ofFault]
        · rename_i shape _
          split
          · simpa using h
          · rename_i unknown hu
            cases hs : schema.shapeDiagnostics declaration.name shape with
            | nil => exact absurd hs (by simpa using hu)
            | cons d ds =>
              have hd : d.isError = true :=
                isError_of_mem_shapeDiagnostics (by rw [hs]; exact List.mem_cons_self)
              exact iff_of_true rfl ⟨d, by simp, hd⟩

end Schema

end Specimen

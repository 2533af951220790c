import Specimen.Diagnostic

/-!
# The phases of a run

A run has four phases that report errors: declarations are checked one by one, those that refer back
to themselves are found, failures spread, and samples are built. Each kind of fault belongs to one of
them (`Fault.phase`), so the identifier of a diagnostic tells the phase that has reported it.
-/

namespace Specimen

/-- A part of a run that reports errors. -/
inductive Phase where
  /-- Every declaration is checked on its own. -/
  | checking
  /-- Declarations that refer back to themselves are found. -/
  | cycles
  /-- Failures spread to the declarations that refer to them. -/
  | spreading
  /-- The samples are built. -/
  | building
  deriving DecidableEq, Repr

/-- The phase that a fault belongs to. -/
def Fault.phase : Fault → Phase
  | .notSampled _ _ | .countNotPositive _ | .noCases | .typeNotSupported _ => .checking
  | .categoryMismatch _ _ | .categoryNotSupported _ | .notStored => .checking
  | .cyclicReference _ _ => .cycles
  | .dependencyFailed _ => .spreading
  | .invalidName _ => .building

namespace Diagnostic

/-- The phase that a diagnostic belongs to. -/
def phase (d : Diagnostic) : Phase :=
  match d.problem with
  | .fault fault => fault.phase
  | .redundantCategory => .checking

@[simp] theorem phase_ofFault (fault : Fault) (location : Location) :
    (ofFault fault location).phase = fault.phase := rfl

@[simp] theorem location_ofFault (fault : Fault) (location : Location) :
    (ofFault fault location).location = location := rfl

@[simp] theorem isError_ofFault (fault : Fault) (location : Location) :
    (ofFault fault location).isError = true := rfl

/-- Only the spreading of failures reports this identifier. -/
theorem id_eq_dependencyFailed_iff {d : Diagnostic} :
    d.id = "dependency_failed" ↔ d.phase = .spreading := by
  obtain ⟨problem, location⟩ := d
  cases problem with
  | redundantCategory => exact iff_of_false (by simp [id]) (by simp [phase])
  | fault fault => cases fault <;> simp [id, Fault.id, phase, Fault.phase]

/-- Only the search for declarations that refer back to themselves reports this identifier. -/
theorem id_eq_cyclicReference_iff {d : Diagnostic} :
    d.id = "cyclic_reference" ↔ d.phase = .cycles := by
  obtain ⟨problem, location⟩ := d
  cases problem with
  | redundantCategory => exact iff_of_false (by simp [id]) (by simp [phase])
  | fault fault => cases fault <;> simp [id, Fault.id, phase, Fault.phase]

end Diagnostic

end Specimen

import Specimen.Fault

/-!
# Diagnostics

A diagnostic is a problem at a place: at a declaration, or at one of its members. Every fault is an
error. The one warning there is tells that a category has no effect, because fixed samples do not look
at it. Severity, wording and suggested edit follow from problem and place, so they are functions of a
diagnostic and no part of it.
-/

namespace Specimen

/-- How bad a problem is. -/
inductive Severity where
  | warning
  | error
  deriving DecidableEq, Repr

/-- The name of a severity. -/
def Severity.label : Severity → String
  | .warning => "warning"
  | .error => "error"

/-- The declaration, and maybe the member, that a diagnostic is about. -/
structure Location where
  type : String
  member : Option String := none
  deriving DecidableEq, Repr

/-- The written form of a location. -/
def Location.text (location : Location) : String :=
  match location.member with
  | some member => s!"{location.type}.{member}"
  | none => location.type

/-- An edit of a declaration. -/
inductive Edit where
  | insertCase (placeholder : String)
  | removeCategory (member : String)
  deriving DecidableEq, Repr

/-- The suggestion of an edit. -/
def Edit.message : Edit → String
  | .insertCase _ => "add a new enum case"
  | .removeCategory _ => "remove the category directive"

/-- What is reported. -/
inductive Problem where
  | fault (fault : Fault)
  /-- A category on a member of a declaration with fixed samples. -/
  | redundantCategory
  deriving DecidableEq, Repr

/-- A problem and its place. -/
structure Diagnostic where
  problem : Problem
  location : Location
  deriving DecidableEq, Repr

namespace Diagnostic

/-- A fault at a place. -/
def ofFault (fault : Fault) (location : Location) : Diagnostic := ⟨.fault fault, location⟩

/-- The warning about the category of a member. -/
def redundantCategory (type member : String) : Diagnostic :=
  ⟨.redundantCategory, ⟨type, some member⟩⟩

/-- The name of the case that an enum without cases could have. -/
def placeholderCase : String := "YourCase"

/-- The stable identifier of the problem. -/
def id (d : Diagnostic) : String :=
  match d.problem with
  | .fault fault => fault.id
  | .redundantCategory => "redundant_category"

/-- The severity of the problem. -/
def severity (d : Diagnostic) : Severity :=
  match d.problem with
  | .fault _ => .error
  | .redundantCategory => .warning

/-- Whether the problem is an error. -/
def isError (d : Diagnostic) : Bool := d.severity == .error

/-- The wording of the problem. -/
def message [Reasons] (d : Diagnostic) : String :=
  match d.problem with
  | .fault fault => fault.message
  | .redundantCategory => "category has no effect in fixed mode"

/-- The edit that would mend it, if there is one. -/
def fix? (d : Diagnostic) : Option Edit :=
  match d.problem with
  | .fault .noCases => some (.insertCase placeholderCase)
  | .fault .notStored | .redundantCategory => d.location.member.map .removeCategory
  | .fault _ => none

/-- The text of a diagnostic: problem, place and suggestion, a line each. -/
def text [Reasons] (d : Diagnostic) : String :=
  s!"{d.severity.label}[{d.id}]: {d.message}\n  --> {d.location.text}"
    ++ match d.fix? with
      | some edit => s!"\n  = help: {edit.message}"
      | none => ""

/-- The number of errors in a report. -/
def errorCount (report : List Diagnostic) : Nat := report.countP isError

/-- The number of warnings in a report. -/
def warningCount (report : List Diagnostic) : Nat := report.countP fun d => !d.isError

/-- A report for reading, with an empty line behind every diagnostic. -/
def reportText [Reasons] (report : List Diagnostic) : String :=
  String.join (report.map fun d => d.text ++ "\n\n")

/-- Every diagnostic of a report counts once. -/
theorem errorCount_add_warningCount (report : List Diagnostic) :
    errorCount report + warningCount report = report.length := by
  have h := List.length_eq_countP_add_countP isError (l := report)
  simp only [errorCount, warningCount]
  rw [h]
  congr 1
  exact List.countP_congr fun d _ => by simp

end Diagnostic

end Specimen

import Specimen.Generation.Cycle
import Specimen.SampleSet

/-!
# Generating samples

A run over a schema has three phases. First every declaration is checked on its own. Then failures
spread: declarations that refer back to themselves fail, and so does a declaration that refers to one
that has failed, until nothing changes any more. At last the samples of those that are left are made,
in the order of the declarations, so that the numbers of identifiers depend on the schema alone.

A bad declaration takes down the declarations that need it and no others. The run itself never fails:
it ends with the sample sets that could be made, the names of the declarations that have none, and the
report.
-/

namespace Specimen

/-- The result of a run. -/
structure Generation where
  sets : List SampleSet
  /-- The declarations without samples, in the order in which they dropped out. -/
  failed : List String
  report : List Diagnostic
  /-- The counter behind the last identifier. -/
  identifiers : Identifiers

namespace Generation

/-! ## Checks -/

/-- The declarations that have passed their own checks, the names of the others, and the report. -/
structure Checked where
  passed : List Prepared
  failed : List String
  report : List Diagnostic

/-- Checks declarations one by one. -/
def check (schema : Schema) : List Declaration → Checked
  | [] => ⟨[], [], []⟩
  | declaration :: declarations =>
    let rest := check schema declarations
    match schema.prepare declaration with
    | (report, some entry) => ⟨entry :: rest.passed, rest.failed, report ++ rest.report⟩
    | (report, none) => ⟨rest.passed, declaration.name :: rest.failed, report ++ rest.report⟩

/-! ## Spreading -/

/-- The state of spreading failures. -/
structure Spread where
  /-- The declarations that are left. -/
  left : List Prepared
  /-- The names that have failed. -/
  failed : List String
  /-- The declarations that have dropped out, in that order. -/
  dropped : List String
  report : List Diagnostic

/-- The first reference of a declaration to something that has failed. -/
def broken? (failed : List String) (entry : Prepared) : Option String :=
  entry.shape.references.find? fun path => failed.contains (typeKey path)

/-- Goes through the declarations once. A failure counts for those behind it at once. -/
def sweep (failed : List String) : List Prepared → Spread
  | [] => ⟨[], failed, [], []⟩
  | entry :: entries =>
    if failed.contains entry.name then
      let rest := sweep failed entries
      { rest with dropped := entry.name :: rest.dropped }
    else
      match broken? failed entry with
      | some path =>
        let rest := sweep (entry.name :: failed) entries
        { rest with
          dropped := entry.name :: rest.dropped
          report := .ofFault (.dependencyFailed path) ⟨entry.name, none⟩ :: rest.report }
      | none =>
        let rest := sweep failed entries
        { rest with left := entry :: rest.left }

/-- Goes through the declarations until nothing new fails. -/
def spread : (rounds : Nat) → (failed : List String) → List Prepared → Spread
  | 0, failed, entries => ⟨entries, failed, [], []⟩
  | rounds + 1, failed, entries =>
    let pass := sweep failed entries
    if pass.report.isEmpty then pass
    else
      let rest := spread rounds pass.failed pass.left
      { rest with dropped := pass.dropped ++ rest.dropped, report := pass.report ++ rest.report }

/-! ## Samples -/

/-- Whether a type has samples, once failures have spread. -/
def status (schema : Schema) (failed : List String) (path : String) : ReferenceStatus :=
  if failed.contains (typeKey path) then .failed
  else if schema.knows path then .available
  else .unknown

/-- Makes the samples of one declaration. -/
def buildSet (schema : Schema) (targets : Targets) (failed : List String) (entry : Prepared) :
    Synthesis SampleSet :=
  SampleSet.build ⟨entry.mode, targets, status schema failed⟩ entry.shape
    entry.declaration.sample.count

/-- Makes the samples of declarations, one after the other. -/
def build (schema : Schema) (targets : Targets) (failed : List String) :
    List Prepared → Identifiers → Generation
  | [], identifiers => ⟨[], [], [], identifiers⟩
  | entry :: entries, identifiers =>
    match (buildSet schema targets failed entry).run identifiers with
    | (.ok set, after) =>
      let rest := build schema targets failed entries after
      { rest with sets := set :: rest.sets }
    | (.error fault, after) =>
      let rest := build schema targets failed entries after
      { rest with
        failed := entry.name :: rest.failed
        report := .ofFault fault ⟨entry.name, none⟩ :: rest.report }

/-! ## The run -/

/-- Generates the samples of a schema. -/
def run (schema : Schema) (targets : Targets) (identifiers : Identifiers) : Generation :=
  let checked := check schema schema.types
  let cyclic := Cycle.diagnostics checked.passed
  let spread := spread (checked.passed.length + 1)
    (checked.failed ++ cyclic.map fun d => d.location.type) checked.passed
  let built := build schema targets spread.failed spread.left identifiers
  { built with
    failed := checked.failed ++ spread.dropped ++ built.failed
    report := checked.report ++ cyclic ++ spread.report ++ built.report }

/-- Generates the samples of a schema with the names that it chooses itself. -/
def ofSchema (schema : Schema) (identifiers : Identifiers) : Except Fault Generation :=
  (Targets.read schema.defaults.member schema.defaults.dataCrate).map fun targets =>
    run schema targets identifiers

end Generation

end Specimen

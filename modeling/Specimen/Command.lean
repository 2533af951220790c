import Specimen.Command.CategoryTable
import Specimen.Command.Summary
import Specimen.Generation.Shared
import Specimen.Schema.Reader
import Specimen.Shape.Listing
import Specimen.Text.Quoted

/-!
# Commands

The four things that can be asked for: to generate samples, to check a schema, to show shapes, and to
list the categories. A command works on files through the three operations of `Files`, in any monad,
so that it can be run on a disk and reasoned about without one.

A command fails with one line that tells what it was about, followed by the causes. Samples that could
be made are written before a failure is told.

The commands of a program that make samples take their numbers from one counter; a check counts for
itself.
-/

namespace Specimen

/-- Access to files. An operation that fails tells the reason. -/
structure Files (m : Type → Type) where
  read : (path : String) → m (Except String String)
  createDirectory : (path : String) → m (Except String Unit)
  write : (path content : String) → m (Except String Unit)

/-- A command. -/
inductive Command where
  | generate (schema : String) (output member dataCrate : Option String)
  | check (schema : String) (quiet : Bool)
  | shape (schema : String) (type : Option String)
  | categories
  deriving DecidableEq, Repr

/-- What a command leaves behind besides files. -/
structure Outcome where
  output : String := ""
  report : String := ""
  failure : Option String := none
  deriving DecidableEq, Repr

namespace Outcome

/-- What goes to the stream for errors. -/
def errorText (outcome : Outcome) : String :=
  outcome.report ++ match outcome.failure with
    | some text => s!"Error: {text}\n"
    | none => ""

/-- Whether the command has failed. -/
def hasFailed (outcome : Outcome) : Bool := outcome.failure.isSome

/-- A command that has done nothing but fail. -/
def failed (text : String) : Outcome := { failure := some text }

end Outcome

/-- What a command that runs a schema answers: what goes to the two streams, and the summary of the run
or the failure that left none. -/
structure Response where
  output : String := ""
  report : String := ""
  summary : Except String Summary

namespace Response

/-- The response if there is no run. -/
def failed (text : String) : Response := { summary := .error text }

/-- What a command leaves behind with its response. A run that is not clean is a failure, too. -/
def outcome (response : Response) : Outcome :=
  { output := response.output
    report := response.report
    failure := match response.summary with
      | .error text => some text
      | .ok summary => summary.failure? }

end Response

namespace Command

/-! ## Paths -/

/-- Drops slashes and empty steps at the end of a path, the path being turned around. -/
def dropEmptySteps : List Char → List Char
  | '/' :: cs => dropEmptySteps cs
  | '.' :: '/' :: cs => dropEmptySteps cs
  | cs => cs

/-- The directory that a path lies in; empty if the path is a plain name. -/
def parent (path : String) : String :=
  let steps := dropEmptySteps path.toList.reverse
  let above := steps.dropWhile (· != '/')
  let trimmed := dropEmptySteps above
  String.ofList (if trimmed.isEmpty && !above.isEmpty then ['/'] else trimmed.reverse)

/-! ## Running -/

variable [Reasons] {m : Type → Type} [Monad m]

/-- The causes of an error of a document, from the outside in. What the system or the reader of documents
tells is part of the message, and a cause of its own. -/
def causes (text : String) : Schema.Error → String
  | .unreadable reason => s!"{(Schema.Error.unreadable reason).message}: {reason}"
  | .malformed =>
    let reason := Reasons.ending (Reasons.ofDocument text)
    Schema.Error.malformed.message ++ reason ++ reason
  | e => e.message

/-- Loads a schema. -/
def load (files : Files m) (path : String) : m (Except String Schema) := do
  let schema := match ← files.read path with
    | .ok text => (Schema.read text).mapError (causes text)
    | .error reason => .error (causes "" (.unreadable reason))
  return schema.mapError fun causes => s!"Failed to load schema from {Text.shown path}: {causes}"

/-- The response if the names to be used cannot stand in source. -/
def badTargets (fault : Fault) : Response :=
  .failed s!"Invalid generated member name or data crate path: {fault.message}"

/-- Writes a file, and the directory that it lies in. -/
def writeFile (files : Files m) (path content : String) : m (Except String Unit) := do
  let directory := parent path
  let created ← if directory.isEmpty then pure (.ok ()) else files.createDirectory directory
  match created with
  | .error reason =>
    return .error s!"Failed to create output directory {Text.shown directory}: {reason}"
  | .ok () =>
    return (← files.write path content).mapError fun reason =>
      s!"Failed to write generated code to {Text.shown path}: {reason}"

/-- Generates the samples of a schema, with numbers from the shared counter. -/
def runGenerate (files : Files m) (schema : Schema) (output : Option String) :
    StateT SharedCounter m Response := do
  match Targets.read schema.defaults.member schema.defaults.dataCrate with
  | .error fault => return badTargets fault
  | .ok targets =>
    let generation ← modifyGet (Generation.shared schema targets)
    let run := Run.ofGeneration false generation
    let source := SampleSet.file generation.sets
    match output with
    | none => return { output := source, report := run.report, summary := .ok run.summary }
    | some path =>
      let written ← StateT.lift (writeFile files path source)
      return { report := run.report, summary := written.map fun () => run.summary }

/-- Checks a schema. -/
def runCheck (schema : Schema) (quiet : Bool) : Response :=
  match Run.ofSchema schema quiet with
  | .error fault => badTargets fault
  | .ok run => { report := run.report, summary := .ok run.summary }

/-- Shows shapes of a schema. -/
def runShape (schema : Schema) (type : Option String) : Outcome :=
  match Listing.ofSchema schema type with
  | .error e =>
    let name := type.getD ""
    .failed s!"Cannot show shape of '{name}': {e.message}"
  | .ok listing =>
    { output := listing.document
      report := Diagnostic.reportText listing.report
      failure := listing.failure? }

/-- Loads a schema and generates its samples, with the names that are chosen instead of its own. -/
def handleGenerate (files : Files m) (path : String) (output member dataCrate : Option String) :
    StateT SharedCounter m Response := do
  match ← StateT.lift (load files path) with
  | .error text => return .failed text
  | .ok schema => runGenerate files (schema.withTargets member dataCrate) output

/-- Loads a schema and checks it. -/
def handleCheck (files : Files m) (path : String) (quiet : Bool) : m Response := do
  match ← load files path with
  | .error text => return .failed text
  | .ok schema => return runCheck schema quiet

/-- Loads a schema and shows shapes of it. -/
def handleShape (files : Files m) (path : String) (type : Option String) : m Outcome := do
  match ← load files path with
  | .error text => return .failed text
  | .ok schema => return runShape schema type

/-- Runs a command in a program that may have run others before. -/
def perform (files : Files m) : Command → StateT SharedCounter m Outcome
  | .generate path output member dataCrate => do
    return (← handleGenerate files path output member dataCrate).outcome
  | .check path quiet => do return (← StateT.lift (handleCheck files path quiet)).outcome
  | .shape path type => StateT.lift (handleShape files path type)
  | .categories => return { output := CategoryTable.text }

/-- Runs a command in a program of its own. -/
def run (files : Files m) (command : Command) : m Outcome := (perform files command).run' {}

end Command

end Specimen

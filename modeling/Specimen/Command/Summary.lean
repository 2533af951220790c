import Specimen.Generation
import Specimen.SampleSet.Rendering

/-!
# Summaries of runs

What a command tells about a run: how many types got samples, which did not, and how many errors and
warnings were reported. Which types got samples the run tells itself; the errors and warnings are
counted where the diagnostics go (`Sink`). A run is clean when no error was reported.
-/

namespace Specimen

/-- Where the diagnostics of a run go: they are counted, and shown if the sink is not quiet. -/
structure Sink where
  quiet : Bool
  errors : Nat := 0
  warnings : Nat := 0
  /-- What has been shown. -/
  shown : String := ""
  deriving DecidableEq, Repr

namespace Sink

/-- Takes a diagnostic. -/
def take [Reasons] (sink : Sink) (d : Diagnostic) : Sink :=
  let counted := match d.severity with
    | .error => { sink with errors := sink.errors + 1 }
    | .warning => { sink with warnings := sink.warnings + 1 }
  if sink.quiet then counted else { counted with shown := counted.shown ++ (d.text ++ "\n\n") }

/-- Takes the diagnostics of a report, one after the other. -/
def takeAll [Reasons] (sink : Sink) (report : List Diagnostic) : Sink := report.foldl take sink

end Sink

/-- What is told about a run. -/
structure Summary where
  generated : Nat
  failed : List String
  errors : Nat
  warnings : Nat
  deriving DecidableEq, Repr

namespace Summary

/-- The closing message of a run that is not clean. -/
def failure? (summary : Summary) : Option String :=
  if summary.errors = 0 then none
  else
    some (s!"{summary.errors} error(s) reported, no samples for: "
      ++ ", ".intercalate summary.failed)

end Summary

/-- A run as it is told about. -/
structure Run where
  summary : Summary
  /-- The report, as it is shown. -/
  report : String
  deriving DecidableEq, Repr

namespace Run

/-- Tells about a run; the report of a quiet run is not shown. -/
def ofGeneration [Reasons] (quiet : Bool) (generation : Generation) : Run :=
  let sink := Sink.takeAll { quiet } generation.report
  { summary :=
      { generated := generation.sets.length
        failed := generation.failed
        errors := sink.errors
        warnings := sink.warnings }
    report := sink.shown }

/-- Runs a schema with a counter of its own. -/
def ofSchema [Reasons] (schema : Schema) (quiet : Bool) : Except Fault Run :=
  (Generation.ofSchema schema {}).map (ofGeneration quiet)

end Run

end Specimen

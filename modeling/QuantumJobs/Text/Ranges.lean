/-!
# Ranges — sets of code points given by their ranges

A property of characters is listed as closed ranges of code points in ascending order, where the
property has a value with that value.
-/

namespace QuantumJobs
namespace Text

/-- Whether a code point lies in one of the ranges. -/
def inRanges (ranges : Array (Nat × Nat)) (n : Nat) : Bool :=
  ranges.any fun r => r.1 ≤ n && n ≤ r.2

/-- The value of the range that a code point lies in. -/
def valueInRanges? {α : Type} (ranges : Array (Nat × Nat × α)) (n : Nat) : Option α :=
  (ranges.find? fun r => r.1 ≤ n && n ≤ r.2.1).map (·.2.2)

end Text
end QuantumJobs

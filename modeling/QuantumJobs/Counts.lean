import QuantumJobs.Json.Decode

/-!
# Counts — histograms of measured bitstrings

A histogram says how often each bitstring was observed.  Its entries are kept in bitstring order and
are ranked by falling count.
-/

namespace QuantumJobs

abbrev Counts := Dict Nat

namespace Counts

/-- The number of observations of a bitstring, zero for one never seen. -/
def observed (c : Counts) (bits : String) : Nat :=
  (c.get? bits).getD 0

/-- Adds observations of a bitstring to those already made. -/
def add (c : Counts) (bits : String) (n : Nat) : Counts :=
  c.insert bits (c.observed bits + n)

/-- The histogram of a list of observations. -/
def ofPairs (pairs : List (String × Nat)) : Counts :=
  pairs.foldl (fun c p => c.add p.1 p.2) Dict.empty

/-- The number of all observations. -/
def shots (c : Counts) : Nat :=
  c.entries.foldr (fun e n => e.2 + n) 0

/-- Whether an entry ranks at least as high as another: by count, at equal counts by bitstring. -/
def rankedBefore (a b : String × Nat) : Bool :=
  b.2 < a.2 || (a.2 = b.2 && decide (a.1 ≤ b.1))

/-- The entries from the most to the least frequent; of two equally frequent bitstrings the smaller
comes first. -/
def ranked (c : Counts) : List (String × Nat) :=
  c.entries.mergeSort rankedBefore

def mostFrequent? (c : Counts) : Option (String × Nat) :=
  c.ranked.head?

def toJson (c : Counts) : Json :=
  .obj (c.entries.map fun e => (e.1, .int e.2))

def decode : Json.Decoder Counts := Json.dictOf Json.asUnsigned

end Counts
end QuantumJobs

import QuantumJobs.Text.Blank

/-!
# Span — lengths of time

Delays, deadlines and elapsed times are whole numbers of nanoseconds.  The clock that they are
measured on starts at zero.
-/

namespace QuantumJobs

/-- A length of time, or a point on a clock that starts at zero. -/
structure Span where
  nanos : Nat
  deriving DecidableEq, Repr, Inhabited

namespace Span

def zero : Span := ⟨0⟩

def ofMillis (n : Nat) : Span := ⟨n * 1000000⟩

def ofSeconds (n : Nat) : Span := ⟨n * 1000000000⟩

/-- Whole milliseconds; a fraction is dropped. -/
def millis (s : Span) : Nat := s.nanos / 1000000

/-- Whole seconds; a fraction is dropped. -/
def seconds (s : Span) : Nat := s.nanos / 1000000000

/-- The nanoseconds beyond the whole seconds. -/
def subsecond (s : Span) : Nat := s.nanos % 1000000000

instance : LE Span := ⟨fun a b => a.nanos ≤ b.nanos⟩

instance : LT Span := ⟨fun a b => a.nanos < b.nanos⟩

instance (a b : Span) : Decidable (a ≤ b) := Nat.decLe _ _

instance (a b : Span) : Decidable (a < b) := Nat.decLt _ _

instance : Add Span := ⟨fun a b => ⟨a.nanos + b.nanos⟩⟩

instance : Sub Span := ⟨fun a b => ⟨a.nanos - b.nanos⟩⟩

instance : Max Span := ⟨fun a b => if a ≤ b then b else a⟩

theorem millis_ofMillis (n : Nat) : (ofMillis n).millis = n := by
  simp [millis, ofMillis]

theorem le_max_right (a b : Span) : b ≤ max a b := by
  show b ≤ if a ≤ b then b else a
  split
  · exact Nat.le_refl _
  · rename_i h
    exact Nat.le_of_lt (Nat.lt_of_not_le h)

theorem le_def {a b : Span} : a ≤ b ↔ a.nanos ≤ b.nanos := Iff.rfl

theorem nanos_add (a b : Span) : (a + b).nanos = a.nanos + b.nanos := rfl

theorem eq_of_nanos {a b : Span} (same : a.nanos = b.nanos) : a = b := by
  cases a
  cases b
  exact congrArg Span.mk same

/-! ## The clock

The clock goes on in whole milliseconds, so what is to last a part of one lasts until it is over. -/

/-- A length of time, rounded up to whole milliseconds. -/
def wholeMillis (s : Span) : Span := ofMillis ((s.nanos + 999999) / 1000000)

theorem nanos_wholeMillis (s : Span) :
    s.wholeMillis.nanos = (s.nanos + 999999) / 1000000 * 1000000 := rfl

theorem wholeMillis_mod (s : Span) : s.wholeMillis.nanos % 1000000 = 0 := by
  rw [nanos_wholeMillis]
  exact Nat.mul_mod_left _ _

theorem le_wholeMillis (s : Span) : s ≤ s.wholeMillis := by
  rw [le_def, nanos_wholeMillis]
  omega

/-- Rounding up is to the next whole millisecond, not to a later one. -/
theorem wholeMillis_le {a s : Span} (whole : a.nanos % 1000000 = 0) (le : s ≤ a) :
    s.wholeMillis ≤ a := by
  rw [le_def] at le ⊢
  rw [nanos_wholeMillis]
  omega

theorem wholeMillis_of_whole {s : Span} (whole : s.nanos % 1000000 = 0) : s.wholeMillis = s := by
  apply eq_of_nanos
  rw [nanos_wholeMillis]
  omega

/-- The longest rest: thirty years of 365 days. -/
def longestRest : Span := ofSeconds 946080000

/-- How long a rest of a given length takes: no rest is longer than the longest. -/
def asRest (s : Span) : Span := wholeMillis ⟨min s.nanos longestRest.nanos⟩

/-- A rest takes no less than any shorter length, up to the longest. -/
theorem le_asRest {a s : Span} (short : a ≤ longestRest) (le : a ≤ s) : a ≤ s.asRest :=
  Nat.le_trans (Nat.le_min.2 ⟨le, short⟩) (le_wholeMillis ⟨min s.nanos longestRest.nanos⟩)

/-! ## Text -/

/-- A quotient with as many decimal places as it needs; the divisor is `10 ^ places`. -/
def withPlaces (places : Nat) (n : Nat) : String :=
  let fraction := (Text.zeroPadded places (n % Nat.pow 10 places)).toList
  let kept := Text.dropEndWhile (· = '0') fraction
  toString (n / Nat.pow 10 places) ++ (if kept.isEmpty then "" else "." ++ String.ofList kept)

/-- The length of time in the greatest unit of which it holds at least one. -/
def toText (s : Span) : String :=
  if 1000000000 ≤ s.nanos then withPlaces 9 s.nanos ++ "s"
  else if 1000000 ≤ s.nanos then withPlaces 6 s.nanos ++ "ms"
  else if 1000 ≤ s.nanos then withPlaces 3 s.nanos ++ "µs"
  else toString s.nanos ++ "ns"

end Span
end QuantumJobs

import Mathlib.Tactic.SplitIfs
import QuantumJobs.Counts
import QuantumJobs.Proofs.ByteOrder
import QuantumJobs.Proofs.DictLookup
import QuantumJobs.Proofs.HandleRecord

/-!
# TalliedCounts — a histogram does not depend on the order of its observations

A histogram is built by adding observations one after another to an empty one.  It then counts for
every bitstring what was given for it, and lists the bitstrings that something was given for.  That
decides the histogram, so the order of the observations makes no difference.

Counts are numbers of sixty-four bits.  No number that is formed on the way exceeds the sum of all
counts.  As long as that sum is such a number nothing overflows, and it does not matter what the
addition of a machine would make of larger ones.
-/

namespace QuantumJobs
namespace Counts

variable {pairs order : List (String × Nat)} {c d : Counts}

/-! ## What is given -/

/-- The sum of all counts. -/
def total (pairs : List (String × Nat)) : Nat := pairs.foldr (fun p n => p.2 + n) 0

/-- The sum of the counts that are given for a bitstring. -/
def given (pairs : List (String × Nat)) (bits : String) : Nat :=
  total (pairs.filter fun p => p.1 = bits)

theorem total_append (first second : List (String × Nat)) :
    total (first ++ second) = total first + total second := by
  induction first with
  | nil => exact (Nat.zero_add _).symm
  | cons p first ih =>
      show p.2 + total (first ++ second) = p.2 + total first + total second
      rw [ih, Nat.add_assoc]

theorem total_perm (reordered : order.Perm pairs) : total order = total pairs := by
  induction reordered with
  | nil => rfl
  | cons p _ ih => exact congrArg (p.2 + ·) ih
  | swap p q rest => exact Nat.add_left_comm q.2 p.2 (total rest)
  | trans _ _ first second => exact first.trans second

theorem given_append (first second : List (String × Nat)) (bits : String) :
    given (first ++ second) bits = given first bits + given second bits := by
  rw [given, List.filter_append, total_append]
  rfl

theorem given_singleton (key : String) (n : Nat) (bits : String) :
    given [(key, n)] bits = if key = bits then n else 0 := by
  by_cases here : key = bits
  · simp [given, total, here]
  · simp [given, total, here]

theorem given_perm (reordered : order.Perm pairs) (bits : String) :
    given order bits = given pairs bits :=
  total_perm (reordered.filter _)

theorem given_le_total (pairs : List (String × Nat)) (bits : String) :
    given pairs bits ≤ total pairs := by
  induction pairs with
  | nil => exact Nat.le_refl 0
  | cons p pairs ih =>
      have first : given [p] bits ≤ p.2 := by
        rw [given_singleton]
        split_ifs
        · exact Nat.le_refl p.2
        · exact Nat.zero_le p.2
      calc given (p :: pairs) bits
          = given [p] bits + given pairs bits := given_append [p] pairs bits
        _ ≤ p.2 + total pairs := Nat.add_le_add first ih

/-! ## What is counted -/

/-- A histogram of what was given. -/
structure Tallies (pairs : List (String × Nat)) (c : Counts) : Prop where
  observed : ∀ bits, c.observed bits = given pairs bits
  listed : ∀ bits, bits ∈ c.keys ↔ bits ∈ pairs.map (·.1)
  shots : c.shots = total pairs
  /-- There are as many entries as there are different bitstrings. -/
  size : c.size = (pairs.map (·.1)).dedup.length
  /-- The bitstrings stand in the order of their bytes, and none stands twice. -/
  ordered : c.keys.Pairwise Text.BytesBefore

/-- The size and the order of a histogram follow from what it lists. -/
theorem tallies_of (observed : ∀ bits, c.observed bits = given pairs bits)
    (listed : ∀ bits, bits ∈ c.keys ↔ bits ∈ pairs.map (·.1)) (shots : c.shots = total pairs) :
    Tallies pairs c where
  observed := observed
  listed := listed
  shots := shots
  size := Dict.size_of_keys listed
  ordered := (Dict.ascending_keys c).imp Text.bytesBefore_of_lt

/-- What a histogram finds under a bitstring. -/
theorem get?_eq (c : Counts) (bits : String) :
    c.get? bits = if bits ∈ c.keys then some (c.observed bits) else none := by
  cases found : c.get? bits with
  | none =>
      have absent : bits ∉ c.keys := by
        rw [Dict.mem_keys_iff, found]
        exact nofun
      rw [if_neg absent]
  | some n =>
      rw [if_pos (Dict.mem_keys_iff.2 ⟨n, found⟩), observed, found]
      rfl

/-- What was given decides the histogram. -/
theorem Tallies.unique (one : Tallies pairs c) (other : Tallies pairs d) : c = d := by
  apply Dict.ext_get?
  intro bits
  simp only [get?_eq, one.listed, other.listed, one.observed, other.observed]

theorem Tallies.of_perm (tallies : Tallies order c) (reordered : order.Perm pairs) :
    Tallies pairs c := by
  refine tallies_of ?_ ?_ ?_
  · intro bits
    rw [tallies.observed, given_perm reordered]
  · intro bits
    rw [tallies.listed, (reordered.map _).mem_iff]
  · rw [tallies.shots, total_perm reordered]

/-- No count exceeds the sum of all. -/
theorem Tallies.fits (tallies : Tallies pairs c) (small : total pairs ≤ Json.maxUnsigned) :
    c.Fits := by
  rintro ⟨bits, n⟩ here
  have found : c.get? bits = some n := Entries.find?_of_mem c.ascending here
  have count : c.observed bits = n := by
    rw [Counts.observed, found]
    rfl
  rw [← count, tallies.observed]
  exact Nat.le_trans (given_le_total pairs bits) small

/-! ## One more observation -/

theorem observed_add (c : Counts) (key : String) (n : Nat) (bits : String) :
    (c.add key n).observed bits = c.observed bits + if key = bits then n else 0 := by
  rw [add, observed, Dict.get?_insert]
  by_cases here : key = bits
  · rw [if_pos here, if_pos here, here]
    rfl
  · rw [if_neg here, if_neg here]
    rfl

theorem mem_keys_add (c : Counts) (key : String) (n : Nat) (bits : String) :
    bits ∈ (c.add key n).keys ↔ bits ∈ c.keys ∨ bits = key := by
  rw [Dict.mem_keys_iff, Dict.mem_keys_iff, add, Dict.get?_insert]
  by_cases here : key = bits
  · simp [here]
  · simp [here, Ne.symm here]

/-- The sum of the counts after one of them has been replaced. -/
theorem total_insert {key : String} {n : Nat} :
    ∀ {es : List (String × Nat)}, Entries.Ascending es →
      total (Entries.insert key n es) + (Entries.find? es key).getD 0 = total es + n := by
  intro es
  induction es with
  | nil =>
      intro _
      exact Nat.add_comm n 0
  | cons e rest ih =>
      intro ascending
      obtain ⟨k, v⟩ := e
      obtain ⟨first, later⟩ := List.pairwise_cons.1 ascending
      unfold Entries.insert Entries.find?
      by_cases before : key < k
      · -- All that is listed comes later, so nothing is replaced.
        have ne : ¬ k = key := by
          rintro rfl
          exact String.lt_irrefl k before
        have absent : Entries.find? rest key = none := by
          apply Entries.find?_eq_none
          rintro e here rfl
          exact String.lt_asymm before (first e here)
        rw [if_pos before, if_neg ne, absent]
        exact Nat.add_comm n (total ((k, v) :: rest))
      · by_cases same : key = k
        · subst same
          rw [if_neg before, if_pos rfl, if_pos rfl]
          show n + total rest + v = v + total rest + n
          omega
        · have next := ih later
          rw [if_neg before, if_neg same, if_neg (Ne.symm same)]
          show v + total (Entries.insert key n rest) + _ = v + total rest + n
          omega

theorem shots_add (c : Counts) (key : String) (n : Nat) : (c.add key n).shots = c.shots + n := by
  have replaced : (c.add key n).shots + c.observed key = c.shots + (c.observed key + n) :=
    total_insert c.ascending
  omega

theorem tallies_empty : Tallies [] Dict.empty :=
  tallies_of (fun _ => rfl) (fun _ => Iff.rfl) rfl

/-- One observation more is one pair more. -/
theorem Tallies.add (tallies : Tallies pairs c) (key : String) (n : Nat) :
    Tallies (pairs ++ [(key, n)]) (c.add key n) := by
  refine tallies_of ?_ ?_ ?_
  · intro bits
    rw [observed_add, tallies.observed, given_append, given_singleton]
  · intro bits
    rw [mem_keys_add, tallies.listed, List.map_append, List.mem_append]
    exact or_congr_right List.mem_singleton.symm
  · rw [shots_add, tallies.shots, total_append]
    rfl

/-! ## All observations -/

/-- The addition of a machine whose numbers have sixty-four bits; what it makes of larger ones is
left open. -/
def IsExact (plus : Nat → Nat → Nat) : Prop := ∀ m n, m + n ≤ Json.maxUnsigned → plus m n = m + n

/-- Adds observations by a given addition; `add` is the case of the natural numbers. -/
def addBy (plus : Nat → Nat → Nat) (c : Counts) (bits : String) (n : Nat) : Counts :=
  c.insert bits (plus (c.observed bits) n)

/-- The number of all observations by a given addition. -/
def shotsBy (plus : Nat → Nat → Nat) (c : Counts) : Nat :=
  c.entries.foldl (fun n e => plus n e.2) 0

/-- The histogram has been built by adding the pairs in their order. -/
inductive Built (plus : Nat → Nat → Nat) : List (String × Nat) → Counts → Prop where
  | empty : Built plus [] Dict.empty
  | add {pairs : List (String × Nat)} {c : Counts} (bits : String) (n : Nat) :
      Built plus pairs c → Built plus (pairs ++ [(bits, n)]) (c.addBy plus bits n)

variable {plus : Nat → Nat → Nat}

theorem isExact_add : IsExact (· + ·) := fun _ _ _ => rfl

theorem Built.foldl_add :
    ∀ (later : List (String × Nat)) {pairs : List (String × Nat)} {c : Counts},
      Built (· + ·) pairs c →
        Built (· + ·) (pairs ++ later) (later.foldl (fun c p => c.add p.1 p.2) c) := by
  intro later
  induction later with
  | nil =>
      intro pairs c built
      rw [List.append_nil]
      exact built
  | cons p later ih =>
      intro pairs c built
      have next := ih (built.add p.1 p.2)
      rw [List.append_assoc] at next
      exact next

theorem built_ofPairs (pairs : List (String × Nat)) : Built (· + ·) pairs (ofPairs pairs) :=
  Built.empty.foldl_add pairs

/-- By induction on the pairs that have been added: the sums are exact, as none exceeds the sum of
all counts. -/
theorem Built.tallies (exact_ : IsExact plus) (built : Built plus pairs c)
    (small : total pairs ≤ Json.maxUnsigned) : Tallies pairs c := by
  induction built with
  | empty => exact tallies_empty
  | @add pairs c bits n _ ih =>
      rw [total_append] at small
      have tallies := ih (Nat.le_trans (Nat.le_add_right _ _) small)
      have sum : plus (c.observed bits) n = c.observed bits + n := by
        apply exact_
        rw [tallies.observed]
        exact Nat.le_trans (Nat.add_le_add_right (given_le_total pairs bits) n) small
      rw [addBy, sum]
      exact tallies.add bits n

theorem foldl_exact (exact_ : IsExact plus) :
    ∀ (es : List (String × Nat)) (n : Nat), n + total es ≤ Json.maxUnsigned →
      es.foldl (fun n e => plus n e.2) n = n + total es := by
  intro es
  induction es with
  | nil => exact fun _ _ => rfl
  | cons e es ih =>
      intro n small
      have small : n + (e.2 + total es) ≤ Json.maxUnsigned := small
      have sum : plus n e.2 = n + e.2 := exact_ n e.2 (by omega)
      rw [List.foldl_cons, sum, ih (n + e.2) (by omega)]
      exact Nat.add_assoc n e.2 (total es)

theorem shotsBy_eq (exact_ : IsExact plus) (small : c.shots ≤ Json.maxUnsigned) :
    c.shotsBy plus = c.shots := by
  have sum := foldl_exact exact_ c.entries 0 (by rw [Nat.zero_add]; exact small)
  rw [Nat.zero_add] at sum
  exact sum

/-- Take any observations whose counts have a sum of sixty-four bits, and put them into any order.
The histogram that is collected from them is the same.  It has for every bitstring the sum of the
counts that were given for it, and one entry for every bitstring that is among the observations,
also if it was given no count but zero; the number of all observations is the sum of all counts;
and the entries stand in strictly ascending order of the bytes of their bitstrings.

The same histogram is built by adding the observations one by one, in that order, by any addition
that is exact for numbers of sixty-four bits, and that addition also gives the number of all
observations. -/
theorem same_histogram_in_any_order (small : total pairs ≤ Json.maxUnsigned)
    (reordered : order.Perm pairs) :
    ofPairs order = ofPairs pairs ∧ Tallies pairs (ofPairs pairs) ∧ (ofPairs pairs).Fits ∧
      ∀ plus c, IsExact plus → Built plus order c →
        c = ofPairs pairs ∧ c.shotsBy plus = total pairs := by
  have tallies : Tallies pairs (ofPairs pairs) := (built_ofPairs pairs).tallies isExact_add small
  have small' : total order ≤ Json.maxUnsigned := total_perm reordered ▸ small
  have same : ∀ {plus : Nat → Nat → Nat} {c : Counts}, IsExact plus → Built plus order c →
      c = ofPairs pairs := fun exact_ built =>
    ((built.tallies exact_ small').of_perm reordered).unique tallies
  refine ⟨same isExact_add (built_ofPairs order), tallies, tallies.fits small, ?_⟩
  intro plus c exact_ built
  obtain rfl := same exact_ built
  refine ⟨rfl, ?_⟩
  rw [shotsBy_eq exact_ (tallies.shots ▸ small), tallies.shots]

/-- The addition that drops what goes beyond sixty-four bits. -/
def wrapped (m n : Nat) : Nat := (m + n) % (Json.maxUnsigned + 1)

theorem isExact_wrapped : IsExact wrapped := fun _ _ small =>
  Nat.mod_eq_of_lt (Nat.lt_succ_of_le small)

/-- A bitstring that is observed twice. -/
def seenTwice : List (String × Nat) := [("00", 3), ("11", 4), ("00", 2)]

theorem built_seenTwice_reversed : ∃ c, Built wrapped seenTwice.reverse c :=
  ⟨_, ((Built.empty.add "00" 2).add "11" 4).add "00" 3⟩

/-- It is counted with both, though they are added the other way round. -/
theorem seenTwice_in_any_order :
    total seenTwice ≤ Json.maxUnsigned ∧ seenTwice.reverse.Perm seenTwice ∧
      Tallies seenTwice (ofPairs seenTwice) ∧
      ∃ c, Built wrapped seenTwice.reverse c ∧ c.observed "00" = 5 ∧ c.observed "01" = 0 ∧
        c.shotsBy wrapped = 9 ∧ c.size = 2 := by
  have small : total seenTwice ≤ Json.maxUnsigned := by decide
  have reordered : seenTwice.reverse.Perm seenTwice := List.reverse_perm _
  obtain ⟨_, tallies, _, built⟩ := same_histogram_in_any_order small reordered
  obtain ⟨c, inOrder⟩ := built_seenTwice_reversed
  obtain ⟨rfl, shots⟩ := built wrapped c isExact_wrapped inOrder
  exact ⟨small, reordered, tallies, _, inOrder, by decide, by decide, shots, by decide⟩

end Counts
end QuantumJobs

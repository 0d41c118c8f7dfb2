import Mathlib.Data.List.Nodup
import QuantumJobs.Counts
import QuantumJobs.Proofs.ByteOrder

/-!
# RankedCounts — which bitstring comes first

The entries of a histogram are ranked by falling count, and equally frequent ones by the order of
the bytes of their bitstrings.  No two entries have the same bitstring, so of any two entries one
outranks the other, and the ranking is decided by that alone.
-/

namespace QuantumJobs
namespace Counts

variable {c : Counts} {a b d : String × Nat}

/-! ## Which entry comes first -/

/-- An entry is ranked before another: it has been observed more often, or as often and the bytes of
its bitstring come first. -/
inductive Outranks (a b : String × Nat) : Prop where
  | moreFrequent : b.2 < a.2 → Outranks a b
  | smaller : a.2 = b.2 → Text.BytesBefore a.1 b.1 → Outranks a b

/-- The entry comes before every other one of the histogram. -/
structure Leads (c : Counts) (e : String × Nat) : Prop where
  listed : e ∈ c.entries
  most : ∀ f ∈ c.entries, f.2 ≤ e.2
  smallest : ∀ f ∈ c.entries, f.2 = e.2 → f ≠ e → Text.BytesBefore e.1 f.1

namespace Outranks

theorem iff_lt : Outranks a b ↔ b.2 < a.2 ∨ a.2 = b.2 ∧ a.1 < b.1 := by
  constructor
  · rintro (more | ⟨same, before⟩)
    · exact .inl more
    · exact .inr ⟨same, Text.bytesBefore_iff_lt.1 before⟩
  · rintro (more | ⟨same, smaller⟩)
    · exact .moreFrequent more
    · exact .smaller same (Text.bytesBefore_iff_lt.2 smaller)

theorem irrefl (a : String × Nat) : ¬ Outranks a a := by
  rw [iff_lt]
  rintro (more | ⟨_, smaller⟩)
  · exact Nat.lt_irrefl _ more
  · exact String.lt_irrefl _ smaller

theorem trans (first : Outranks a b) (second : Outranks b d) : Outranks a d := by
  rw [iff_lt] at first second ⊢
  rcases first with more | ⟨same, smaller⟩
  · rcases second with more' | ⟨same', _⟩
    · exact .inl (Nat.lt_trans more' more)
    · exact .inl (same' ▸ more)
  · rcases second with more' | ⟨same', smaller'⟩
    · exact .inl (same ▸ more')
    · exact .inr ⟨same.trans same', String.lt_trans smaller smaller'⟩

theorem asymm (first : Outranks a b) : ¬ Outranks b a := fun second => irrefl a (first.trans second)

/-- Of two different entries one outranks the other. -/
theorem total (differ : a ≠ b) : Outranks a b ∨ Outranks b a := by
  rw [iff_lt, iff_lt]
  rcases Nat.lt_trichotomy a.2 b.2 with more | same | more
  · exact .inr (.inl more)
  · by_cases smaller : a.1 < b.1
    · exact .inl (.inr ⟨same, smaller⟩)
    · by_cases larger : b.1 < a.1
      · exact .inr (.inr ⟨same.symm, larger⟩)
      · exact absurd (Prod.ext (String.le_antisymm larger smaller) same) differ
  · exact .inl (.inl more)

end Outranks

/-- The comparison that is sorted by lets an entry stand before those that it outranks, and before
itself. -/
theorem rankedBefore_iff : rankedBefore a b = true ↔ Outranks a b ∨ a = b := by
  unfold rankedBefore
  rw [Bool.or_eq_true, Bool.and_eq_true, decide_eq_true_iff, decide_eq_true_iff, decide_eq_true_iff,
    Outranks.iff_lt]
  constructor
  · rintro (more | ⟨same, le⟩)
    · exact .inl (.inl more)
    · by_cases smaller : a.1 < b.1
      · exact .inl (.inr ⟨same, smaller⟩)
      · exact .inr (Prod.ext (String.le_antisymm le smaller) same)
  · rintro ((more | ⟨same, smaller⟩) | rfl)
    · exact .inl more
    · exact .inr ⟨same, String.lt_asymm smaller⟩
    · exact .inr ⟨rfl, String.lt_irrefl a.1⟩

/-! ## The ranking -/

theorem ranked_perm (c : Counts) : c.ranked.Perm c.entries := List.mergeSort_perm _ _

/-- Keys ascend, so no entry is listed twice. -/
theorem nodup_entries (c : Counts) : c.entries.Nodup := by
  refine c.ascending.imp ?_
  rintro a _ smaller rfl
  exact String.lt_irrefl a.1 smaller

/-- Every entry of the ranking outranks all that come after it. -/
theorem pairwise_ranked (c : Counts) : c.ranked.Pairwise Outranks := by
  -- What is sorted by a transitive and total comparison is sorted; as no entry is listed twice, none
  -- stands before another by equality.
  have trans : ∀ a b d : String × Nat,
      rankedBefore a b = true → rankedBefore b d = true → rankedBefore a d = true := by
    intro a b d first second
    rw [rankedBefore_iff] at first second ⊢
    rcases first with first | rfl
    · rcases second with second | rfl
      · exact .inl (first.trans second)
      · exact .inl first
    · exact second
  have total : ∀ a b : String × Nat, (rankedBefore a b || rankedBefore b a) = true := by
    intro a b
    rw [Bool.or_eq_true, rankedBefore_iff, rankedBefore_iff]
    by_cases same : a = b
    · exact .inl (.inr same)
    · exact (Outranks.total same).imp .inl .inl
  have sorted : c.ranked.Pairwise fun a b => rankedBefore a b = true :=
    List.pairwise_mergeSort trans total c.entries
  have differ : c.ranked.Pairwise (· ≠ ·) := (ranked_perm c).nodup_iff.2 (nodup_entries c)
  refine (sorted.and differ).imp ?_
  rintro a b ⟨before, differ⟩
  exact (rankedBefore_iff.1 before).resolve_right differ

/-- Of two entries of the ranking, that which outranks the other stands at the lower place. -/
theorem place_lt_iff {i j : Nat} (first : c.ranked[i]? = some a) (second : c.ranked[j]? = some b) :
    i < j ↔ Outranks a b := by
  have before : ∀ {i j : Nat} {a b : String × Nat}, c.ranked[i]? = some a →
      c.ranked[j]? = some b → i < j → Outranks a b := by
    intro i j a b first second lower
    obtain ⟨within, rfl⟩ := List.getElem?_eq_some_iff.1 first
    obtain ⟨within', rfl⟩ := List.getElem?_eq_some_iff.1 second
    exact List.pairwise_iff_getElem.1 (pairwise_ranked c) i j within within' lower
  refine ⟨before first second, ?_⟩
  intro outranks
  rcases Nat.lt_trichotomy i j with lower | rfl | higher
  · exact lower
  · cases first.symm.trans second
    exact absurd outranks (Outranks.irrefl a)
  · exact absurd outranks (before second first higher).asymm

/-! ## The first of the ranking -/

theorem leads_iff {e : String × Nat} :
    c.Leads e ↔ e ∈ c.entries ∧ ∀ f ∈ c.entries, f ≠ e → Outranks e f := by
  constructor
  · rintro ⟨listed, most, smallest⟩
    refine ⟨listed, ?_⟩
    intro f here differ
    rcases Nat.lt_or_eq_of_le (most f here) with fewer | same
    · exact .moreFrequent fewer
    · exact .smaller same.symm (smallest f here same differ)
  · rintro ⟨listed, outranks⟩
    refine ⟨listed, ?_, ?_⟩
    · intro f here
      by_cases same : f = e
      · exact Nat.le_of_eq (congrArg Prod.snd same)
      · cases outranks f here same with
        | moreFrequent fewer => exact Nat.le_of_lt fewer
        | smaller same _ => exact Nat.le_of_eq same.symm
    · intro f here same differ
      cases outranks f here differ with
      | moreFrequent fewer => exact absurd same (Nat.ne_of_lt fewer)
      | smaller _ before => exact before

theorem mostFrequent?_eq_some {e : String × Nat} : c.mostFrequent? = some e ↔ c.Leads e := by
  rw [leads_iff]
  constructor
  · intro first
    obtain ⟨rest, ranked⟩ := List.head?_eq_some_iff.1 first
    have sorted := pairwise_ranked c
    rw [ranked] at sorted
    have listed : ∀ f, f ∈ c.entries ↔ f ∈ e :: rest := fun f => by
      rw [← ranked, (ranked_perm c).mem_iff]
    refine ⟨(listed e).2 List.mem_cons_self, ?_⟩
    intro f here differ
    have later : f ∈ rest := (List.mem_cons.1 ((listed f).1 here)).resolve_left differ
    exact (List.pairwise_cons.1 sorted).1 f later
  · rintro ⟨listed, outranks⟩
    -- The entry stands somewhere, and nothing stands before it.
    obtain ⟨i, here⟩ := List.getElem?_of_mem ((ranked_perm c).mem_iff.2 listed)
    cases i with
    | zero =>
        rw [mostFrequent?, List.head?_eq_getElem?]
        exact here
    | succ i =>
        have within : i + 1 < c.ranked.length := (List.getElem?_eq_some_iff.1 here).1
        have before : c.ranked[i]? = some c.ranked[i] := List.getElem?_eq_getElem (by omega)
        have ahead := (place_lt_iff before here).1 (Nat.lt_succ_self i)
        have differ : c.ranked[i] ≠ e := fun same => Outranks.irrefl e (same ▸ ahead)
        have member : c.ranked[i] ∈ c.entries := (ranked_perm c).mem_iff.1 (List.getElem_mem _)
        exact absurd ahead (outranks _ member differ).asymm

theorem mostFrequent?_eq_none : c.mostFrequent? = none ↔ c.isEmpty = true := by
  rw [mostFrequent?, List.head?_eq_none_iff, Dict.isEmpty, List.isEmpty_iff]
  constructor
  · intro none
    exact List.nil_perm.1 (none ▸ ranked_perm c)
  · intro empty
    exact List.perm_nil.1 (empty ▸ ranked_perm c)

/-- The ranking of a histogram has its entries and no others, each as often as the histogram lists
it.  Of any two places in it, the lower one has the entry that has been observed more often or, of
two equally frequent ones, that whose bitstring comes first in the order of bytes.  There is no most
frequent entry exactly if the histogram is empty; otherwise it is the one entry that no other
exceeds in count and that has the smallest bitstring among those that equal it. -/
theorem ranked_by_count_then_bytes (c : Counts) :
    c.ranked.Perm c.entries ∧
    (∀ (i j : Nat) (a b : String × Nat), c.ranked[i]? = some a → c.ranked[j]? = some b →
      (i < j ↔ Outranks a b)) ∧
    (c.mostFrequent? = none ↔ c.isEmpty = true) ∧
    ∀ e, c.mostFrequent? = some e ↔ c.Leads e :=
  ⟨ranked_perm c, fun _ _ _ _ first second => place_lt_iff first second, mostFrequent?_eq_none,
    fun _ => mostFrequent?_eq_some⟩

/-- Two bitstrings are equally frequent, and a third one is more so. -/
example : (ofPairs [("01", 10), ("11", 30), ("00", 10)]).ranked
    = [("11", 30), ("00", 10), ("01", 10)] := by cbv

end Counts
end QuantumJobs

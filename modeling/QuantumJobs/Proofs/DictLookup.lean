import Mathlib.Data.List.Dedup
import Mathlib.Data.List.Sort
import QuantumJobs.Proofs.Decoding

/-!
# DictLookup — finite maps by what is found in them

A finite map is determined by what is found under each key.  What is found after an insertion, a
filter or a merge follows from what was found before, so two maps that agree on some keys still
agree on them when the same is done to both.
-/

namespace QuantumJobs

variable {α : Type}

namespace Entries

theorem mem_of_find? {key : String} {value : α} :
    ∀ {es : List (String × α)}, find? es key = some value → (key, value) ∈ es
  | (k, v) :: rest, found => by
      unfold find? at found
      by_cases here : k = key
      · simp only [here, if_true, Option.some.injEq] at found
        rw [here, found]
        exact List.mem_cons_self
      · simp only [here, if_false] at found
        exact List.mem_cons_of_mem _ (mem_of_find? found)

/-- Nothing is found under a key that is not listed. -/
theorem find?_eq_none {key : String} {es : List (String × α)} (absent : ∀ e ∈ es, e.1 ≠ key) :
    find? es key = none := by
  cases found : find? es key with
  | none => rfl
  | some value => exact absurd rfl (absent _ (mem_of_find? found))

theorem find?_filter (p : String → Bool) (key : String) :
    ∀ es : List (String × α),
      find? (es.filter fun e => p e.1) key = if p key then find? es key else none := by
  intro es
  induction es with
  | nil => simp [find?]
  | cons e rest ih =>
      obtain ⟨k, v⟩ := e
      by_cases here : k = key
      · subst here
        cases kept : p k with
        | true => simp [kept, find?]
        | false => simp [kept, ih]
      · cases kept : p k with
        | true => simp [kept, find?, here, ih]
        | false => simp [kept, find?, here, ih]

end Entries

namespace Dict

/-- Maps are equal if the same is found in them. -/
theorem ext_get? {a b : Dict α} (same : ∀ key, a.get? key = b.get? key) : a = b := by
  have irrefl : Std.Irrefl fun e f : String × α => e.1 < f.1 := ⟨fun e => String.lt_irrefl e.1⟩
  have asymm : Std.Asymm fun e f : String × α => e.1 < f.1 := ⟨fun _ _ => String.lt_asymm⟩
  apply ext
  refine List.Pairwise.eq_of_mem_iff a.ascending b.ascending ?_
  rintro ⟨key, value⟩
  have listed : ∀ d : Dict α, (key, value) ∈ d.entries ↔ d.get? key = some value := fun d =>
    ⟨Entries.find?_of_mem d.ascending, Entries.mem_of_find?⟩
  rw [listed, listed, same]

theorem get?_insert (d : Dict α) (key other : String) (value : α) :
    (d.insert key value).get? other = if key = other then some value else d.get? other :=
  Entries.find?_insert key other value d.entries

theorem get?_filterKeys (p : String → Bool) (d : Dict α) (key : String) :
    (d.filterKeys p).get? key = if p key then d.get? key else none :=
  Entries.find?_filter p key d.entries

theorem get?_erase (d : Dict α) (key other : String) :
    (d.erase key).get? other = if other = key then none else d.get? other := by
  have found : (d.erase key).get? other = if decide (other ≠ key) then d.get? other else none :=
    Entries.find?_filter (fun k => k ≠ key) other d.entries
  rw [found]
  by_cases here : other = key
  · simp [here]
  · simp [here]

/-- What is put under a key goes with the key. -/
theorem erase_insert (d : Dict α) (key : String) (value : α) :
    (d.insert key value).erase key = d.erase key := by
  apply ext_get?
  intro other
  rw [get?_erase, get?_erase, get?_insert]
  by_cases here : other = key
  · simp [here]
  · simp [here, Ne.symm here]

theorem get?_insertMany (key : String) :
    ∀ {es : List (String × α)} (d : Dict α), Entries.Ascending es →
      (d.insertMany es).get? key = (Entries.find? es key).or (d.get? key) := by
  intro es
  induction es with
  | nil =>
      intro d _
      rfl
  | cons e rest ih =>
      intro d ascending
      obtain ⟨k, v⟩ := e
      obtain ⟨first, later⟩ := List.pairwise_cons.1 ascending
      have next := ih (d.insert k v) later
      show ((d.insert k v).insertMany rest).get? key = _
      rw [next, get?_insert]
      by_cases here : k = key
      · -- Keys ascend, so this one does not come again.
        subst here
        have absent : Entries.find? rest k = none := by
          apply Entries.find?_eq_none
          intro e inRest same
          have before := first e inRest
          rw [same] at before
          exact String.lt_irrefl k before
        simp [absent, Entries.find?]
      · simp [here, Entries.find?]

/-- What is found in a merged map: what the right one has, or else what the left one has. -/
theorem get?_merge (a b : Dict α) (key : String) :
    (a.merge b).get? key = (b.get? key).or (a.get? key) :=
  get?_insertMany key a b.ascending

/-! ## Keys -/

theorem mem_keys_iff {d : Dict α} {key : String} :
    key ∈ d.keys ↔ ∃ value, d.get? key = some value := by
  unfold keys
  rw [List.mem_map]
  constructor
  · rintro ⟨⟨_, value⟩, here, rfl⟩
    exact ⟨value, Entries.find?_of_mem d.ascending here⟩
  · rintro ⟨value, found⟩
    exact ⟨(key, value), Entries.mem_of_find? found, rfl⟩

theorem ascending_keys (d : Dict α) : d.keys.Pairwise (· < ·) := List.pairwise_map.2 d.ascending

theorem nodup_keys (d : Dict α) : d.keys.Nodup := by
  refine (ascending_keys d).imp ?_
  rintro key _ before rfl
  exact String.lt_irrefl key before

/-- A map with the keys of a list has as many entries as there are different ones among them. -/
theorem size_of_keys {d : Dict α} {keys : List String}
    (same : ∀ key, key ∈ d.keys ↔ key ∈ keys) : d.size = keys.dedup.length := by
  have perm : d.keys.Perm keys.dedup := by
    rw [List.perm_ext_iff_of_nodup (nodup_keys d) (List.nodup_dedup keys)]
    intro key
    rw [same, List.mem_dedup]
  rw [← perm.length_eq, Dict.keys, List.length_map]
  rfl

end Dict
end QuantumJobs

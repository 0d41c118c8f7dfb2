import Mathlib.Data.List.Nodup
import Mathlib.Data.List.Perm.Subperm
import QuantumJobs.SampleResult

/-!
# KernelNames — results under the names of the submitted kernels

An execution that carries a kernel's name keeps it, and any other takes the name of the kernel at
its place.  Nothing but names is touched, and naming once more changes nothing.  Nobody looks
whether a name is carried already, so a kernel's name is carried as often as before, and once more
if the execution at the kernel's own place has to be named after it.  Where kernels have names of
their own, every kernel comes to have one execution exactly if no execution is named after a kernel
that has one already.
-/

namespace QuantumJobs
namespace SampleResult

/-- The names of the executions, in order. -/
def names (r : SampleResult) : List String := r.executions.map (·.name)

/-- Every kernel's name is carried once, and each histogram is the one that is found under its
name. -/
structure NamedOnce (kernels : List String) (r : SampleResult) : Prop where
  once : ∀ kernel ∈ kernels, r.names.count kernel = 1
  found : ∀ kernel ∈ kernels, ∃ counts, r.get? kernel = some counts
  shown : ∀ e ∈ r.executions, r.get? e.name = some e.counts

/-- A kernel's name is carried already, and the execution at the kernel's own place carries no
kernel's name. -/
def Collides (kernels : List String) (r : SampleResult) : Prop :=
  ∃ (i : Nat) (kernel name : String), kernels[i]? = some kernel ∧ kernel ∈ r.names ∧
    r.names[i]? = some name ∧ name ∉ kernels

variable {r : SampleResult} {kernels : List String}

/-! ## Looking up names -/

theorem get?_eq_none_iff {name : String} : r.get? name = none ↔ name ∉ r.names := by
  unfold get? names
  rw [Option.map_eq_none_iff, List.find?_eq_none]
  simp

theorem exists_get? {name : String} (here : name ∈ r.names) :
    ∃ counts, r.get? name = some counts := by
  cases found : r.get? name with
  | none => exact absurd here (get?_eq_none_iff.1 found)
  | some counts => exact ⟨counts, rfl⟩

/-- Where no two executions share a name, each is found under its own. -/
theorem get?_of_mem (distinct : r.names.Nodup) {e : Execution} (here : e ∈ r.executions) :
    r.get? e.name = some e.counts := by
  obtain ⟨counts, found⟩ := exists_get? (List.mem_map_of_mem here)
  obtain ⟨e', first, rfl⟩ := Option.map_eq_some_iff.1 found
  have inResult : e' ∈ r.executions := List.mem_of_find?_eq_some first
  have sameName : e'.name = e.name := by simpa using List.find?_some first
  rw [found, List.inj_on_of_nodup_map distinct inResult here sameName]

/-! ## Naming one execution -/

theorem counts_nameAt (kernels : List String) (e : Execution) (kernel : String) :
    (nameAt kernels e kernel).counts = e.counts := by
  unfold nameAt
  split <;> rfl

theorem name_nameAt (kernels : List String) (e : Execution) (kernel : String) :
    (nameAt kernels e kernel).name = if e.name ∈ kernels then e.name else kernel := by
  unfold nameAt
  by_cases own : e.name ∈ kernels
  · rw [if_pos (List.contains_iff_mem.2 own), if_pos own]
  · rw [if_neg (mt List.contains_iff_mem.1 own), if_neg own]

/-! ## Naming them all -/

/-- The name that an execution goes by at the place of a kernel. -/
def settledName (kernels : List String) (name kernel : String) : String :=
  if name ∈ kernels then name else kernel

theorem names_nameByKernels (one : r.executions.length = kernels.length) :
    (r.nameByKernels kernels).names = List.zipWith (settledName kernels) r.names kernels := by
  unfold nameByKernels names
  rw [if_pos one, List.map_zipWith, List.zipWith_map_left]
  simp only [name_nameAt]
  rfl

theorem getElem?_names_nameByKernels (one : r.executions.length = kernels.length) {i : Nat}
    {kernel name : String} (place : kernels[i]? = some kernel) (own : r.names[i]? = some name) :
    (r.nameByKernels kernels).names[i]? = some (settledName kernels name kernel) := by
  rw [names_nameByKernels one, List.getElem?_zipWith, own, place]

/-- An execution goes by a kernel's name if it carried it, or if it carried no kernel's name and
stands at the kernel's place. -/
theorem settledName_eq_iff {name place kernel : String} (isKernel : kernel ∈ kernels) :
    settledName kernels name place = kernel ↔
      name = kernel ∨ name ∉ kernels ∧ place = kernel := by
  unfold settledName
  by_cases own : name ∈ kernels
  · simp [own]
  · have other : name ≠ kernel := fun is => own (is ▸ isKernel)
    simp [own, other]

/-- At the places of other kernels, no execution comes by a kernel's name. -/
theorem count_zipWith_of_not_mem {kernel : String} (isKernel : kernel ∈ kernels) :
    ∀ {names places : List String}, names.length = places.length → kernel ∉ places →
      (List.zipWith (settledName kernels) names places).count kernel = names.count kernel := by
  -- Both lists get shorter together, but whose names are kernels' is asked of all the kernels.
  intro names
  induction names with
  | nil =>
      intro places _ _
      rfl
  | cons name names ih =>
      intro places same elsewhere
      cases places with
      | nil => cases same
      | cons place places =>
          obtain ⟨notHere, notLater⟩ := not_or.1 (mt List.mem_cons.2 elsewhere)
          have shorter : names.length = places.length := Nat.succ.inj same
          have stays : settledName kernels name place = kernel ↔ name = kernel := by
            rw [settledName_eq_iff isKernel]
            simp [Ne.symm notHere]
          rw [List.zipWith_cons_cons, List.count_cons, List.count_cons, ih shorter notLater]
          simp only [beq_iff_eq, stays]

/-- At its own place a kernel's name is added if the execution there carries no kernel's name. -/
theorem count_zipWith {kernel : String} (isKernel : kernel ∈ kernels) :
    ∀ {names places : List String} {i : Nat} {name : String}, places.Nodup →
      names.length = places.length → places[i]? = some kernel → names[i]? = some name →
        (List.zipWith (settledName kernels) names places).count kernel
          = names.count kernel + if name ∈ kernels then 0 else 1 := by
  intro names
  induction names with
  | nil =>
      intro places i name _ _ _ own
      cases own
  | cons first names ih =>
      intro places i name distinct same place own
      cases places with
      | nil => cases same
      | cons at_ places =>
          obtain ⟨notLater, distinct⟩ := List.nodup_cons.1 distinct
          have shorter : names.length = places.length := Nat.succ.inj same
          rw [List.zipWith_cons_cons, List.count_cons, List.count_cons]
          simp only [beq_iff_eq, settledName_eq_iff isKernel]
          cases i with
          | zero =>
              cases place
              cases own
              rw [count_zipWith_of_not_mem isKernel shorter notLater]
              by_cases named : first ∈ kernels
              · simp [named]
              · have other : first ≠ kernel := fun is => named (is ▸ isKernel)
                simp [named, other]
          | succ i =>
              -- The first place is that of another kernel.
              have others : at_ ≠ kernel := by
                rintro rfl
                exact notLater (List.mem_of_getElem? place)
              rw [ih distinct shorter place own]
              simp only [others, and_false, or_false]
              omega

/-- A kernel's name is carried as often as before, and once more if the execution at the kernel's
place carried no kernel's name. -/
theorem count_names_nameByKernels (distinct : kernels.Nodup)
    (one : r.executions.length = kernels.length) {i : Nat} {kernel name : String}
    (place : kernels[i]? = some kernel) (own : r.names[i]? = some name) :
    (r.nameByKernels kernels).names.count kernel
      = r.names.count kernel + if name ∈ kernels then 0 else 1 := by
  have same : r.names.length = kernels.length := by
    unfold names
    rw [List.length_map, one]
  rw [names_nameByKernels one]
  exact count_zipWith (List.mem_of_getElem? place) distinct same place own

theorem length_names_nameByKernels (one : r.executions.length = kernels.length) :
    (r.nameByKernels kernels).names.length = kernels.length := by
  rw [names_nameByKernels one, List.length_zipWith]
  simp [names, one]

/-- Every execution comes to carry the name of a kernel. -/
theorem mem_of_mem_nameByKernels (one : r.executions.length = kernels.length) {name : String}
    (here : name ∈ (r.nameByKernels kernels).names) : name ∈ kernels := by
  rw [names_nameByKernels one, List.mem_iff_getElem] at here
  obtain ⟨i, bound, rfl⟩ := here
  rw [List.getElem_zipWith]
  unfold settledName
  split
  · assumption
  · exact List.getElem_mem _

/-! ## What naming leaves as it was -/

theorem nameByKernels_of_size_ne (differ : r.size ≠ kernels.length) :
    r.nameByKernels kernels = r := if_neg differ

theorem executions_nameByKernels (one : r.size = kernels.length) :
    (r.nameByKernels kernels).executions
      = List.zipWith (nameAt kernels) r.executions kernels := by
  have named : r.nameByKernels kernels = ⟨List.zipWith (nameAt kernels) r.executions kernels⟩ :=
    if_pos one
  rw [named]

/-- An execution stays at its place, and there is one after naming exactly where there was one
before. -/
theorem getElem?_nameByKernels (one : r.size = kernels.length) {i : Nat} {e : Execution}
    {kernel : String} (here : r.executions[i]? = some e) (place : kernels[i]? = some kernel) :
    (r.nameByKernels kernels).executions[i]? = some (nameAt kernels e kernel) := by
  rw [executions_nameByKernels one, List.getElem?_zipWith, here, place]

theorem histograms_nameByKernels (r : SampleResult) (kernels : List String) :
    (r.nameByKernels kernels).executions.map (·.counts) = r.executions.map (·.counts) := by
  by_cases one : r.size = kernels.length
  · -- Of an execution and the kernel at its place only the execution has counts.
    calc (r.nameByKernels kernels).executions.map (·.counts)
        = List.zipWith (fun e _ => e.counts) r.executions kernels := by
          rw [executions_nameByKernels one, List.map_zipWith]
          simp only [counts_nameAt]
      _ = ((r.executions.zip kernels).map Prod.fst).map (·.counts) := by
          rw [List.map_map, List.zip_eq_zipWith, List.map_zipWith]
          rfl
      _ = r.executions.map (·.counts) := by
          rw [List.map_fst_zip (Nat.le_of_eq one)]
  · rw [nameByKernels_of_size_ne one]

/-- All observations are those of the histograms. -/
theorem shots_eq_foldr (r : SampleResult) :
    r.shots = (r.executions.map (·.counts)).foldr (fun counts n => counts.shots + n) 0 := by
  rw [List.foldr_map]
  rfl

/-- Nothing is named where every execution has a kernel's name. -/
theorem nameByKernels_of_named (named : ∀ e ∈ r.executions, e.name ∈ kernels) :
    r.nameByKernels kernels = r := by
  by_cases one : r.size = kernels.length
  · have same : (r.nameByKernels kernels).executions = r.executions := by
      rw [executions_nameByKernels one]
      refine List.ext_getElem ?_ ?_
      · rw [List.length_zipWith]
        exact Nat.min_eq_left (Nat.le_of_eq one)
      · intro i _ within
        have own : r.executions[i].name ∈ kernels := named _ (List.getElem_mem within)
        rw [List.getElem_zipWith, nameAt, if_pos (List.contains_iff_mem.2 own)]
    calc r.nameByKernels kernels
        = ⟨(r.nameByKernels kernels).executions⟩ := rfl
      _ = r := by rw [same]
  · exact nameByKernels_of_size_ne one

theorem named_of_nameByKernels (one : r.size = kernels.length) :
    ∀ e ∈ (r.nameByKernels kernels).executions, e.name ∈ kernels := by
  intro e here
  have name : e.name ∈ (r.nameByKernels kernels).names := List.mem_map_of_mem here
  exact mem_of_mem_nameByKernels one name

/-- Naming touches nothing but names: every histogram stays, at its place.  If there is not one
execution for each kernel, no name is touched either.  If there is, an execution under a kernel's
name stays as it is, any other takes the name of the kernel at its place, and all are under kernels'
names then.  Naming once more changes nothing. -/
theorem names_only_and_once (r : SampleResult) (kernels : List String) :
    (r.nameByKernels kernels).executions.map (·.counts) = r.executions.map (·.counts) ∧
    (r.nameByKernels kernels).size = r.size ∧
    (r.nameByKernels kernels).shots = r.shots ∧
    (r.size ≠ kernels.length → r.nameByKernels kernels = r) ∧
    (r.size = kernels.length →
      (∀ (i : Nat) (e : Execution) (kernel : String),
        r.executions[i]? = some e → kernels[i]? = some kernel →
          (e.name ∈ kernels → (r.nameByKernels kernels).executions[i]? = some e) ∧
          (e.name ∉ kernels →
            (r.nameByKernels kernels).executions[i]? = some ⟨kernel, e.counts⟩)) ∧
      ∀ e ∈ (r.nameByKernels kernels).executions, e.name ∈ kernels) ∧
    (r.nameByKernels kernels).nameByKernels kernels = r.nameByKernels kernels := by
  have histograms := histograms_nameByKernels r kernels
  refine ⟨histograms, ?_, ?_, nameByKernels_of_size_ne, ?_, ?_⟩
  · have lengths := congrArg List.length histograms
    rwa [List.length_map, List.length_map] at lengths
  · rw [shots_eq_foldr, shots_eq_foldr, histograms]
  · intro one
    refine ⟨?_, named_of_nameByKernels one⟩
    intro i e kernel here place
    rw [getElem?_nameByKernels one here place, nameAt]
    constructor
    · intro own
      rw [if_pos (List.contains_iff_mem.2 own)]
    · intro other
      rw [if_neg (mt List.contains_iff_mem.1 other)]
  · by_cases one : r.size = kernels.length
    · exact nameByKernels_of_named (named_of_nameByKernels one)
    · rw [nameByKernels_of_size_ne one, nameByKernels_of_size_ne one]

/-! ## A name for every kernel -/

/-- Where the names are the kernels' in some order, every kernel has its one execution. -/
theorem namedOnce_of_perm (distinct : kernels.Nodup) (perm : r.names.Perm kernels) :
    r.NamedOnce kernels where
  once := by
    intro kernel here
    rw [perm.count_eq]
    exact List.count_eq_one_of_mem distinct here
  found := by
    intro kernel here
    exact exists_get? (perm.mem_iff.2 here)
  shown := by
    intro e here
    exact get?_of_mem (perm.nodup_iff.2 distinct) here

/-- As there are no more executions than kernels, each kernel has one only if none has two. -/
theorem perm_of_subset (distinct : kernels.Nodup) (one : r.executions.length = kernels.length)
    (all : kernels ⊆ (r.nameByKernels kernels).names) :
    (r.nameByKernels kernels).names.Perm kernels := by
  have enough : (r.nameByKernels kernels).names.length ≤ kernels.length :=
    Nat.le_of_eq (length_names_nameByKernels one)
  exact ((List.subperm_of_subset distinct all).perm_of_length_le enough).symm

/-- Some execution stands at every kernel's place. -/
theorem own_name (one : r.executions.length = kernels.length) {i : Nat} {kernel : String}
    (place : kernels[i]? = some kernel) : ∃ name, r.names[i]? = some name := by
  have within : i < kernels.length := (List.getElem?_eq_some_iff.1 place).1
  have inNames : i < r.names.length := by
    unfold names
    rwa [List.length_map, one]
  exact ⟨_, List.getElem?_eq_getElem inNames⟩

theorem perm_of_not_collides (distinct : kernels.Nodup)
    (one : r.executions.length = kernels.length)
    (once : ∀ kernel ∈ kernels, r.names.count kernel ≤ 1) (apart : ¬ r.Collides kernels) :
    (r.nameByKernels kernels).names.Perm kernels := by
  have kernelsOnly : (r.nameByKernels kernels).names ⊆ kernels := fun _ here =>
    mem_of_mem_nameByKernels one here
  have atMostOnce : (r.nameByKernels kernels).names.Nodup := by
    rw [List.nodup_iff_count_le_one]
    intro kernel
    by_cases isKernel : kernel ∈ kernels
    · obtain ⟨i, place⟩ := List.getElem?_of_mem isKernel
      obtain ⟨name, own⟩ := own_name one place
      rw [count_names_nameByKernels distinct one place own]
      by_cases named : name ∈ kernels
      · simpa [named] using once kernel isKernel
      · -- The name that is added was not there before.
        have absent : kernel ∉ r.names := fun here =>
          apart ⟨i, kernel, name, place, here, own, named⟩
        simp [List.count_eq_zero.2 absent, named]
    · rw [List.count_eq_zero.2 (mt (fun here => kernelsOnly here) isKernel)]
      exact Nat.zero_le 1
  have enough : kernels.length ≤ (r.nameByKernels kernels).names.length :=
    Nat.le_of_eq (length_names_nameByKernels one).symm
  exact (List.subperm_of_subset atMostOnce kernelsOnly).perm_of_length_le enough

theorem twice_of_collides (distinct : kernels.Nodup) (one : r.executions.length = kernels.length)
    (collides : r.Collides kernels) :
    ∃ kernel ∈ kernels, 2 ≤ (r.nameByKernels kernels).names.count kernel := by
  obtain ⟨i, kernel, name, place, here, own, unnamed⟩ := collides
  refine ⟨kernel, List.mem_of_getElem? place, ?_⟩
  -- Who carried the name keeps it, and the execution at the kernel's place comes by it.
  rw [count_names_nameByKernels distinct one place own, if_neg unnamed]
  have before : 0 < r.names.count kernel := List.count_pos_iff.2 here
  omega

/-- Where kernels have names of their own, there is one execution for each, and none of their names
is carried twice before: after naming, every kernel has its one execution exactly if no execution is
named after a kernel whose name is carried already.  Else a kernel has two, and another none, as an
execution without a kernel's name is named after the kernel at its place in any case. -/
theorem named_once_unless_collides (distinct : kernels.Nodup)
    (one : r.executions.length = kernels.length)
    (once : ∀ kernel ∈ kernels, r.names.count kernel ≤ 1) :
    ((r.nameByKernels kernels).NamedOnce kernels ↔ ¬ r.Collides kernels) ∧
      (r.Collides kernels →
        (∃ kernel ∈ kernels, 2 ≤ (r.nameByKernels kernels).names.count kernel) ∧
          ∃ kernel ∈ kernels, (r.nameByKernels kernels).get? kernel = none) ∧
      ∀ (i : Nat) (kernel name : String), kernels[i]? = some kernel → r.names[i]? = some name →
        name ∉ kernels → (r.nameByKernels kernels).names[i]? = some kernel := by
  refine ⟨⟨?_, ?_⟩, ?_, ?_⟩
  · intro named collides
    obtain ⟨kernel, isKernel, twice⟩ := twice_of_collides distinct one collides
    have once := named.once kernel isKernel
    omega
  · intro apart
    exact namedOnce_of_perm distinct (perm_of_not_collides distinct one once apart)
  · intro collides
    obtain ⟨kernel, isKernel, twice⟩ := twice_of_collides distinct one collides
    refine ⟨⟨kernel, isKernel, twice⟩, ?_⟩
    by_contra none
    -- With an execution for every kernel there would be none left to share a name.
    have all : kernels ⊆ (r.nameByKernels kernels).names := by
      intro other isKernel
      by_contra absent
      exact none ⟨other, isKernel, get?_eq_none_iff.2 absent⟩
    have single := (perm_of_subset distinct one all).count_eq kernel
    rw [List.count_eq_one_of_mem distinct isKernel] at single
    omega
  · intro i kernel name place own unnamed
    rw [getElem?_names_nameByKernels one place own, settledName, if_neg unnamed]

/-- A result of one observation for each of the given names. -/
def called (names : List String) : SampleResult :=
  ⟨names.map fun name => ⟨name, Dict.ofList [(name, 1)]⟩⟩

/-- The names of two kernels are carried at each other's places, and the third execution has none of
its own. -/
theorem swapped_named_once :
    ["a", "b", "c"].Nodup ∧ (called ["b", "a", "circuit_2"]).executions.length = 3 ∧
      (∀ kernel ∈ ["a", "b", "c"], (called ["b", "a", "circuit_2"]).names.count kernel ≤ 1) ∧
      ((called ["b", "a", "circuit_2"]).nameByKernels ["a", "b", "c"]).NamedOnce ["a", "b", "c"] := by
  have distinct : ["a", "b", "c"].Nodup := by decide
  have once : ∀ kernel ∈ ["a", "b", "c"],
      (called ["b", "a", "circuit_2"]).names.count kernel ≤ 1 := by decide
  refine ⟨distinct, rfl, once, (named_once_unless_collides distinct rfl once).1.2 ?_⟩
  rintro ⟨i, kernel, name, place, here, own, unnamed⟩
  -- Only the last execution carries no kernel's name, and nobody carries the last kernel's.
  match i with
  | 0 => cases own; exact unnamed (by decide)
  | 1 => cases own; exact unnamed (by decide)
  | 2 => cases place; exact absurd here (by decide)
  | i + 3 => cases place

/-- It is not so that every kernel always comes to have one execution: where the second kernel's name
is carried at the first place, the second execution is named after that kernel too, and no execution
after the first. -/
theorem second_named_twice :
    ¬ ∀ (kernels : List String) (r : SampleResult), kernels.Nodup →
      r.executions.length = kernels.length →
        (∀ kernel ∈ kernels, r.names.count kernel ≤ 1) →
          (r.nameByKernels kernels).NamedOnce kernels := by
  intro always
  have once : ∀ kernel ∈ ["a", "b"], (called ["b", "circuit_1"]).names.count kernel ≤ 1 := by
    decide
  have named := always ["a", "b"] (called ["b", "circuit_1"]) (by decide) rfl once
  have first : ((called ["b", "circuit_1"]).nameByKernels ["a", "b"]).names.count "a" = 0 := by
    decide
  have single := named.once "a" List.mem_cons_self
  omega

end SampleResult
end QuantumJobs

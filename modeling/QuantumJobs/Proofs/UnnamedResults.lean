import QuantumJobs.Proofs.DictLookup
import QuantumJobs.Proofs.FinishedJobs
import QuantumJobs.Proofs.KernelNames
import QuantumJobs.Proofs.WaitSteps

/-!
# UnnamedResults — results whose entries carry no names

The emulator may leave its entries without names.  An entry is then named after its position, as
`circuit_0`, and takes the name of the kernel at that position instead, unless the name that was
made up is the name of a kernel itself.  So the entries go by the kernels' names in order, except
where a kernel is called like the placeholder of another one's position.
-/

namespace QuantumJobs

theorem Json.ByNameOrPosition.unique {names : List String} {m : Json}
    {field field' : String → Option Json} (given : ByNameOrPosition names m field)
    (given' : ByNameOrPosition names m field') : field = field' := by
  cases given with
  | byName _ => cases given'; rfl
  | byPosition _ => cases given'; rfl

/-! ## Histograms added up -/

namespace Counts

/-- Observations under keys that come after all others are put at the end. -/
theorem foldl_add :
    ∀ (es : List (String × Nat)) (c : Counts), Entries.Ascending (c.entries ++ es) →
      (es.foldl (fun c e => c.add e.1 e.2) c).entries = c.entries ++ es := by
  intro es
  induction es with
  | nil =>
      intro c _
      rw [List.append_nil]
      rfl
  | cons e es ih =>
      intro c ascending
      have last : ∀ d ∈ c.entries, d.1 < e.1 := by
        intro d here
        exact (List.pairwise_append.1 ascending).2.2 d here e List.mem_cons_self
      have unseen : c.observed e.1 = 0 := by
        have absent : c.get? e.1 = none := by
          apply Entries.find?_eq_none
          intro d here same
          exact String.lt_irrefl e.1 (same ▸ last d here)
        rw [observed, absent]
        rfl
      have added : (c.add e.1 e.2).entries = c.entries ++ [e] := by
        rw [add, unseen, Nat.zero_add]
        exact Entries.insert_of_last last
      have again : (c.add e.1 e.2).entries ++ es = c.entries ++ e :: es := by
        rw [added, List.append_assoc]
        rfl
      rw [List.foldl_cons, ih _ (again ▸ ascending), again]

/-- Nothing is counted twice if the entries of a histogram are added up anew. -/
theorem ofPairs_entries (c : Counts) : ofPairs c.entries = c :=
  Dict.ext (foldl_add c.entries Dict.empty c.ascending)

end Counts

namespace Fermioniq
namespace Results

open Json (ByNameOrPosition)

/-! ## Entries without names -/

/-- The name of the entry at a position, if it carries none. -/
def placeholder (i : Nat) : String := "circuit_" ++ toString i

/-- An entry that carries no name. -/
def IsUnnamed (m samples : Json) : Prop :=
  ∃ field output field', ByNameOrPosition ["circuit_name", "output"] m field ∧
    (field "circuit_name" = none ∨ field "circuit_name" = some .null) ∧
    field "output" = some output ∧ ByNameOrPosition ["samples"] output field' ∧
    field' "samples" = some samples

/-- A results message in which no entry carries a name, with the samples of its entries. -/
def HoldsUnnamed (m : Json) (samples : List Json) : Prop :=
  ∃ field entries, ByNameOrPosition ["emulator_output"] m field ∧
    field "emulator_output" = some (.arr entries) ∧ List.Forall₂ IsUnnamed entries samples

theorem decode_samples {m : Json} {counts : Counts} {field : String → Option Json} {samples : Json}
    (read : decodeSamples m = .ok counts) (given : ByNameOrPosition ["samples"] m field)
    (here : field "samples" = some samples) : Counts.decode samples = .ok counts := by
  obtain ⟨field', given', built⟩ := Json.given_of_record read
  obtain rfl := given'.unique given
  obtain ⟨_, found, read⟩ := Json.Shape.of_build_required built
  rw [found] at here
  cases here
  exact read

/-- An entry without a name is read as such, with its samples. -/
theorem of_isUnnamed {m samples : Json} {entry : Option String × Counts}
    (read : decodeEntry m = .ok entry) (unnamed : IsUnnamed m samples) :
    entry.1 = none ∧ Counts.decode samples = .ok entry.2 := by
  obtain ⟨field, output, field', given, noName, here, inOutput, inSamples⟩ := unnamed
  obtain ⟨field₁, given₁, built⟩ := Json.given_of_record read
  obtain rfl := given₁.unique given
  obtain ⟨_, counts, pairBuilt, outputBuilt, rfl⟩ := Json.Shape.of_build_seq built
  obtain ⟨name?, nameBuilt, rfl⟩ := Json.Shape.of_build_map pairBuilt
  obtain ⟨_, found, samplesRead⟩ := Json.Shape.of_build_required outputBuilt
  rw [found] at here
  cases here
  refine ⟨?_, decode_samples samplesRead inOutput inSamples⟩
  cases name? with
  | none => rfl
  | some name =>
      obtain ⟨v, found, text⟩ := Json.Shape.of_build_optional nameBuilt
      rw [found, Json.of_asText text] at noName
      rcases noName with none | null
      · cases none
      · cases null

/-- The entries of a message in which none carries a name. -/
theorem of_holdsUnnamed {m : Json} {samples : List Json} {entries : List (Option String × Counts)}
    (read : decode m = .ok entries) (holds : HoldsUnnamed m samples) :
    List.Forall₂ (fun entry s => entry.1 = none ∧ Counts.decode s = .ok entry.2) entries
      samples := by
  obtain ⟨field, items, given, here, unnamed⟩ := holds
  obtain ⟨field', given', built⟩ := Json.given_of_record read
  obtain rfl := given'.unique given
  obtain ⟨_, found, listed⟩ := Json.Shape.of_build_required built
  rw [found] at here
  cases here
  have each := forall₂_of_mapM (listed : items.mapM decodeEntry = .ok entries)
  clear listed found read built
  induction each generalizing samples with
  | nil =>
      cases unnamed
      exact .nil
  | cons first _ ih =>
      cases unnamed with
      | cons isUnnamed rest => exact .cons (of_isUnnamed first isUnnamed) (ih rest)

theorem getElem?_executions :
    ∀ (entries : List (Option String × Counts)) (k i : Nat),
      (executions k entries)[i]?
        = entries[i]?.map fun e => ⟨e.1.getD (placeholder (k + i)), e.2⟩
  | [], _, _ => rfl
  | e :: entries, k, 0 => by
      show some (⟨_, Counts.ofPairs e.2.entries⟩ : Execution) = _
      rw [Counts.ofPairs_entries]
      rfl
  | e :: entries, k, i + 1 => by
      have later := getElem?_executions entries (k + 1) i
      rw [Nat.add_right_comm, Nat.add_assoc] at later
      exact later

theorem length_executions :
    ∀ (entries : List (Option String × Counts)) (k : Nat),
      (executions k entries).length = entries.length
  | [], _ => rfl
  | _ :: entries, k => congrArg Nat.succ (length_executions entries (k + 1))

/-- What was read of a results message: its entries as executions. -/
theorem of_ofMessage {m : Json} {result : SampleResult} (read : ofMessage m = .ok result) :
    ∃ entries, decode m = .ok entries ∧ result = ⟨executions 0 entries⟩ := by
  obtain ⟨entries, decoded, accepted⟩ := of_bind_ok read
  refine ⟨entries, reading_ok decoded, ?_⟩
  by_cases empty : entries.isEmpty = true
  · rw [if_pos empty] at accepted
    cases accepted
  · rw [if_neg empty] at accepted
    cases accepted
    rfl

/-! ## Names of results -/

/-- The result has one entry for each kernel, and the entry at a kernel's position has the samples
that were given there.  Its name is the placeholder of the position if a kernel is called that, and
the kernel's name if none is. -/
structure NamedByPlace (kernels : List String) (samples : List Json) (r : SampleResult) : Prop where
  length : r.executions.length = kernels.length
  entry : ∀ i kernel, kernels[i]? = some kernel →
    ∃ e s, r.executions[i]? = some e ∧ samples[i]? = some s ∧ Counts.decode s = .ok e.counts ∧
      e.name = if placeholder i ∈ kernels then placeholder i else kernel

/-- Results without names are named by their places. -/
theorem namedByPlace_of_ofMessage {m : Json} {result : SampleResult} {samples : List Json}
    {kernels : List String} (read : ofMessage m = .ok result) (unnamed : HoldsUnnamed m samples)
    (one : samples.length = kernels.length) :
    NamedByPlace kernels samples (result.nameByKernels kernels) := by
  obtain ⟨entries, decoded, rfl⟩ := of_ofMessage read
  obtain ⟨length, each⟩ := List.forall₂_iff_get.1 (of_holdsUnnamed decoded unnamed)
  have fits : (executions 0 entries).length = kernels.length := by
    rw [length_executions, length, one]
  unfold SampleResult.nameByKernels
  rw [if_pos fits]
  refine ⟨?_, ?_⟩
  · rw [List.length_zipWith, fits, Nat.min_self]
  · intro i kernel at_
    have within : i < kernels.length := (List.getElem?_eq_some_iff.1 at_).1
    have inSamples : i < samples.length := one ▸ within
    have inEntries : i < entries.length := length ▸ inSamples
    obtain ⟨noName, counts⟩ := each i inEntries inSamples
    have named : (executions 0 entries)[i]? = some ⟨placeholder i, entries[i].2⟩ := by
      rw [getElem?_executions, List.getElem?_eq_getElem inEntries, Nat.zero_add]
      show some (⟨entries[i].1.getD (placeholder i), entries[i].2⟩ : Execution) = _
      rw [show entries[i].1 = none from noName]
      rfl
    refine ⟨SampleResult.nameAt kernels ⟨placeholder i, entries[i].2⟩ kernel, samples[i], ?_,
      List.getElem?_eq_getElem inSamples, ?_, SampleResult.name_nameAt ..⟩
    · show (List.zipWith _ (executions 0 entries) kernels)[i]? = _
      rw [List.getElem?_zipWith, named, at_]
    · rw [SampleResult.counts_nameAt]
      exact counts

/-- The names are those of the kernels in order exactly if no kernel is called like the placeholder
of another one's position. -/
theorem NamedByPlace.names_iff {kernels : List String} {samples : List Json} {r : SampleResult}
    (named : NamedByPlace kernels samples r) :
    r.executions.map (·.name) = kernels ↔
      ∀ i, i < kernels.length → placeholder i ∈ kernels → kernels[i]? = some (placeholder i) := by
  constructor
  · intro same i within taken
    obtain ⟨e, _, here, _, _, name⟩ := named.entry i _ (List.getElem?_eq_getElem within)
    rw [if_pos taken] at name
    rw [← name]
    calc kernels[i]? = (r.executions.map (·.name))[i]? := by rw [same]
      _ = some e.name := by rw [List.getElem?_map, here]; rfl
  · intro proper
    apply List.ext_getElem?
    intro i
    rw [List.getElem?_map]
    cases at_ : kernels[i]? with
    | none =>
        have beyond := List.getElem?_eq_none_iff.1 at_
        rw [← named.length] at beyond
        rw [List.getElem?_eq_none beyond]
        rfl
    | some kernel =>
        obtain ⟨e, _, here, _, _, name⟩ := named.entry i kernel at_
        rw [here]
        show some e.name = some kernel
        rw [name]
        split
        · rename_i taken
          have within := (List.getElem?_eq_some_iff.1 at_).1
          rw [proper i within taken] at at_
          exact at_
        · rfl

end Results

/-! ## Polls -/

variable {τ : Type}

/-- A poll that answers a result has read it from a message, and named it after the kernels. -/
theorem read_of_poll {net : Network τ} {now : Instant} {h h' : Handle} {line : Line Session τ}
    {r : SampleResult} (pending : h.outcome = none)
    (polled : ((backend.poll h).run net now line).1 = (.ok (.done r), h')) :
    ∃ status line₁ m line₂ result,
      backend.Fetched net now h.statusPath line (.ok status) line₁ ∧
        backend.Fetched net now (Session.resultsPath h.job) line₁ (.ok m) line₂ ∧
          Results.ofMessage m = .ok result ∧ r = result.nameByKernels h.kernels ∧
            h'.outcome = some (.done r) := by
  cases known : h.known? (backend.name line.state) with
  | some told =>
      obtain ⟨fault, rfl⟩ := Handle.known?_of_pending pending known
      rw [Backend.run_poll_of_known known] at polled
      cases polled
  | none =>
      rw [Backend.run_poll_of_pending pending (Backend.known?_eq_none.1 known).2] at polled
      obtain ⟨c, finds⟩ := Backend.finds_total backend net now h line
      rw [Backend.finds_iff.1 finds] at polled
      -- Only a check that reads results is answered with them.
      cases finds with
      | results collected results =>
          cases polled
          cases collected with
          | intro fetched _ message =>
              cases message with
              | status path => cases path
              | separate path fetched' =>
                  cases path
                  exact ⟨_, _, _, _, _, fetched, fetched', results, rfl,
                    Handle.outcome_settle pending _⟩
      | noStatus => cases polled
      | badStatus => cases polled
      | notDone => cases polled
      | noResults => cases polled
      | badResults => cases polled

/-- What becomes of results without names.  Whatever the network answers: if a poll of a pending job
answers a result, and no entry of the results message that came carries a name, and there is one for
each kernel, then each kernel's place in the result has the samples of the entry there, and it has
the kernel's name unless some kernel is called like the placeholder of that place.  So the entries
are named after the kernels in order exactly if no kernel is called like the placeholder of another
one's place. -/
theorem names_of_poll {net : Network τ} {now : Instant} {h h' : Handle} {line : Line Session τ}
    {r : SampleResult} (pending : h.outcome = none)
    (polled : ((backend.poll h).run net now line).1 = (.ok (.done r), h')) :
    ∃ status line₁ m line₂,
      backend.Fetched net now h.statusPath line (.ok status) line₁ ∧
        backend.Fetched net now (Session.resultsPath h.job) line₁ (.ok m) line₂ ∧
          h'.outcome = some (.done r) ∧
          ∀ samples, Results.HoldsUnnamed m samples → samples.length = h.kernels.length →
            Results.NamedByPlace h.kernels samples r ∧
              (r.executions.map (·.name) = h.kernels ↔
                ∀ i, i < h.kernels.length → Results.placeholder i ∈ h.kernels →
                  h.kernels[i]? = some (Results.placeholder i)) := by
  obtain ⟨status, line₁, m, line₂, result, fetched, fetched', read, rfl, outcome⟩ :=
    read_of_poll pending polled
  refine ⟨status, line₁, m, line₂, fetched, fetched', outcome, ?_⟩
  intro samples unnamed one
  have named := Results.namedByPlace_of_ofMessage read unnamed one
  exact ⟨named, named.names_iff⟩

/-- The pending job with two kernels of given names. -/
def jobNaming (first second : String) : Handle := { pendingJob with kernels := [first, second] }

/-- Results of two circuits, without names. -/
def unnamedObject : Json :=
  .obj [("emulator_output", .arr [
    .obj [("output", .obj [("samples", .obj [("00", .int 1)])])],
    .obj [("circuit_name", .null), ("output", .obj [("samples", .obj [("11", .int 2)])])]])]

/-- The results of the two circuits, under given names. -/
def namedResult (first second : String) : SampleResult :=
  ⟨[⟨first, Dict.ofList [("00", 1)]⟩, ⟨second, Dict.ofList [("11", 2)]⟩]⟩

theorem holdsUnnamed_unnamedObject :
    Results.HoldsUnnamed unnamedObject [.obj [("00", .int 1)], .obj [("11", .int 2)]] :=
  ⟨_, _, .byName _, rfl, .cons ⟨_, _, _, .byName _, .inl rfl, rfl, .byName _, rfl⟩
    (.cons ⟨_, _, _, .byName _, .inr rfl, rfl, .byName _, rfl⟩ .nil)⟩

/-- Two kernels whose names are no placeholders. -/
theorem names_of_poll_unnamedObject :
    (jobNaming "bell" "ghz").outcome = none ∧
      ∃ h', ((backend.poll (jobNaming "bell" "ghz")).run (answering statusObject unnamedObject)
          ⟨0, 0, 0⟩ freshLine).1 = (.ok (.done (namedResult "bell" "ghz")), h') ∧
        ∃ status line₁ m line₂,
          backend.Fetched (answering statusObject unnamedObject) ⟨0, 0, 0⟩
              (jobNaming "bell" "ghz").statusPath freshLine (.ok status) line₁ ∧
            backend.Fetched (answering statusObject unnamedObject) ⟨0, 0, 0⟩
                (Session.resultsPath (jobNaming "bell" "ghz").job) line₁ (.ok m) line₂ ∧
              h'.outcome = some (.done (namedResult "bell" "ghz")) ∧
              ∀ samples, Results.HoldsUnnamed m samples →
                samples.length = (jobNaming "bell" "ghz").kernels.length →
                  Results.NamedByPlace ["bell", "ghz"] samples (namedResult "bell" "ghz") ∧
                    ((namedResult "bell" "ghz").executions.map (·.name) = ["bell", "ghz"] ↔
                      ∀ i, i < 2 → Results.placeholder i ∈ ["bell", "ghz"] →
                        ["bell", "ghz"][i]? = some (Results.placeholder i)) := by
  have polled : ((backend.poll (jobNaming "bell" "ghz")).run (answering statusObject unnamedObject)
      ⟨0, 0, 0⟩ freshLine).1 = (.ok (.done (namedResult "bell" "ghz")), _) := rfl
  exact ⟨rfl, _, polled, names_of_poll rfl polled⟩

/-- Two kernels that are called like each other's placeholders: the samples of the first entry come
under the name of the second kernel. -/
theorem names_swapped :
    ∃ h' line₁ line₂,
      ((backend.poll (jobNaming "circuit_1" "circuit_0")).run (answering statusObject unnamedObject)
          ⟨0, 0, 0⟩ freshLine).1 = (.ok (.done (namedResult "circuit_0" "circuit_1")), h') ∧
        backend.Fetched (answering statusObject unnamedObject) ⟨0, 0, 0⟩
          (Session.resultsPath (jobNaming "circuit_1" "circuit_0").job) line₁ (.ok unnamedObject)
            line₂ ∧
        Results.HoldsUnnamed unnamedObject [.obj [("00", .int 1)], .obj [("11", .int 2)]] ∧
        (jobNaming "circuit_1" "circuit_0").kernels = ["circuit_1", "circuit_0"] := by
  refine ⟨_, freshLine, _, rfl, .accepted rfl ?_, holdsUnnamed_unnamedObject, rfl⟩
  intro message same
  cases same

end Fermioniq
end QuantumJobs

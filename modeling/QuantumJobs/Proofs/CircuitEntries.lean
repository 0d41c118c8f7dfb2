import QuantumJobs.Proofs.LoadedHandles
import QuantumJobs.Proofs.UnnamedResults

/-!
# CircuitEntries — the entries of a results message, one execution each

A results message lists the outputs of its circuits.  It is read exactly if it lists one at least
and every entry can be read: its name is a text or missing, and its samples count every one of their
keys.  Then the executions stand as the entries do, with the samples that the entries have, so none
is left out, put together with another or moved.  A message that cannot be read is kept whole.
-/

namespace QuantumJobs

/-! ## Values inside values -/

/-- What stands under a key stands inside the value. -/
theorem Json.Part.of_get? {v w : Json} {key : String} (found : v.get? key = some w) : w.Part v := by
  cases v with
  | obj fields => exact .entry (Entries.mem_of_find? found)
  | _ => cases found

/-! ## Histograms -/

namespace Counts

/-- The pairs that were read are the fields they were read of. -/
theorem fields_of_read {fields : List (String × Json)} {es : List (String × Nat)}
    (each : List.Forall₂ (fun f e => ((Json.asUnsigned f.2).map fun n => (f.1, n)) = .ok e)
      fields es) :
    fields = es.map fun e => (e.1, .int e.2) := by
  induction each with
  | nil => rfl
  | @cons f e fields es first _ ih =>
      obtain ⟨n, number, rfl⟩ := of_map_ok first
      rw [List.map_cons, ← ih, ← (Json.of_asUnsigned number).1]

/-- What is read as a histogram is the histogram as it is written. -/
theorem toJson_of_decode {m : Json} {counts : Counts} (sorted : m.sorted = m)
    (read : decode m = .ok counts) : m = counts.toJson := by
  cases m with
  | obj fields =>
      obtain ⟨es, each, same⟩ := of_bind_ok read
      cases same
      have listed := fields_of_read (forall₂_of_mapM each)
      have ascending : Entries.Ascending es := by
        have keys := (Json.sorted_obj_eq_self.1 sorted).1
        rw [listed] at keys
        exact (List.pairwise_map (f := fun e : String × Nat => (e.1, Json.int e.2))).1 keys
      have entries : (Dict.ofList es).entries = es := by
        show (es.foldl (fun d e => d.insert e.1 e.2) Dict.empty).entries = es
        rw [Dict.foldl_insert_entries]
        exact Entries.foldl_insert ascending
      unfold toJson
      rw [entries, listed]
  | _ => cases read

theorem decode_iff {m : Json} {counts : Counts} (sorted : m.sorted = m) :
    decode m = .ok counts ↔ m = counts.toJson ∧ counts.Fits := by
  constructor
  · intro read
    exact ⟨toJson_of_decode sorted read, fits_of_decode read⟩
  · rintro ⟨rfl, fits⟩
    exact decode_toJson fits

end Counts

namespace Fermioniq

/-- Every object that counts its keys is read as a histogram. -/
theorem exists_counts {m : Json} (histogram : IsHistogram m) :
    ∃ counts, Counts.decode m = .ok counts := by
  obtain ⟨fields, rfl, each⟩ := histogram
  have pairs : ∀ f ∈ fields, ∃ e, ((Json.asUnsigned f.2).map fun n => (f.1, n)) = .ok e := by
    intro f here
    obtain ⟨n, small, number⟩ := each f here
    rw [number, Json.asUnsigned_int small]
    exact ⟨(f.1, n), rfl⟩
  obtain ⟨es, read⟩ := exists_mapM pairs
  refine ⟨Dict.ofList es, ?_⟩
  show (fields.mapM _ >>= _) = _
  rw [read]
  rfl

namespace Results

/-! ## Entries -/

/-- The samples of an entry: what its output has under that name. -/
def samples? (entry : Json) : Option Json :=
  (entry.get? "output").bind (·.get? "samples")

/-- The name that an entry goes by, or that it goes by none. -/
inductive Named (entry : Json) : Option String → Prop
  | absent : entry.get? "circuit_name" = none → Named entry none
  | null : entry.get? "circuit_name" = some .null → Named entry none
  | text {name : String} : entry.get? "circuit_name" = some (.str name) → Named entry (some name)

/-- A message with a list of entries, in which the entries and their outputs are objects. -/
structure Lists (m : Json) (entries : List Json) : Prop where
  listed : m.get? "emulator_output" = some (.arr entries)
  entry : ∀ e ∈ entries, ∃ fields, e = .obj fields
  output : ∀ e ∈ entries, ∀ v, e.get? "output" = some v → ∃ fields, v = .obj fields

/-- An entry that can be read. -/
structure Readable (entry : Json) : Prop where
  name : ∃ name, Named entry name
  samples : ∃ v, samples? entry = some v ∧ IsHistogram v

/-- The execution that comes of the entry at a position. -/
structure Makes (i : Nat) (entry : Json) (x : Execution) : Prop where
  name : ∃ name, Named entry name ∧ x.name = name.getD (placeholder i)
  samples : samples? entry = some x.counts.toJson

/-- A result has one execution for each entry, and at each position the one that comes of the entry
there. -/
structure Mirrors (entries : List Json) (r : SampleResult) : Prop where
  length : r.executions.length = entries.length
  each : ∀ i e, entries[i]? = some e → ∃ x, r.executions[i]? = some x ∧ Makes i e x

/-! ## What is read of an entry -/

theorem decodeSamples_iff {fields : List (String × Json)} {counts : Counts}
    (sorted : (Json.obj fields).sorted = .obj fields) :
    decodeSamples (.obj fields) = .ok counts ↔
      Entries.find? fields "samples" = some counts.toJson ∧ counts.Fits := by
  constructor
  · intro read
    obtain ⟨_, _, built⟩ := of_bind_ok read
    obtain ⟨samples, found, read⟩ := Json.Shape.of_build_required built
    have inside : samples.Part (.obj fields) := .entry (Entries.mem_of_find? found)
    obtain ⟨rfl, fits⟩ := (Counts.decode_iff (inside.sorted sorted)).1 read
    exact ⟨found, fits⟩
  · rintro ⟨found, fits⟩
    apply Json.recordOfFields_ok (Json.Shape.lawful_required _ _)
      (Json.sorted_obj_eq_self.1 sorted).1
    rw [Json.Shape.build_required found]
    exact Counts.decode_toJson fits

theorem build_name_iff {fields : List (String × Json)} {name : Option String} :
    (Json.Shape.optional "circuit_name" Json.asText).build (Entries.find? fields) = .ok name ↔
      Named (.obj fields) name := by
  constructor
  · intro built
    cases found : Entries.find? fields "circuit_name" with
    | none =>
        rw [Json.Shape.build_optional_absent found] at built
        cases built
        exact .absent found
    | some v =>
        rw [Json.Shape.build_optional found] at built
        cases v with
        | null =>
            cases built
            exact .null found
        | str text =>
            cases built
            exact .text found
        | _ => cases built
  · intro named
    cases named with
    | absent missing => exact Json.Shape.build_optional_absent missing
    | null found => exact Json.Shape.build_optional found
    | text found => exact Json.Shape.build_optional found

/-- An entry of a list is read as its name and its samples. -/
theorem decodeEntry_iff {m e : Json} {entries : List Json} {name : Option String} {counts : Counts}
    (sorted : e.sorted = e) (lists : Lists m entries) (here : e ∈ entries) :
    decodeEntry e = .ok (name, counts) ↔
      Named e name ∧ samples? e = some counts.toJson ∧ counts.Fits := by
  obtain ⟨fields, rfl⟩ := lists.entry e here
  -- Both directions find the output to be an object in key order.
  have output : ∀ v, Entries.find? fields "output" = some v →
      ∃ inner, v = .obj inner ∧ (Json.obj inner).sorted = .obj inner := by
    intro v found
    obtain ⟨inner, rfl⟩ := lists.output _ here v found
    have inside : (Json.obj inner).Part (.obj fields) := .entry (Entries.mem_of_find? found)
    exact ⟨inner, rfl, inside.sorted sorted⟩
  have samples : ∀ inner, Entries.find? fields "output" = some (.obj inner) →
      samples? (.obj fields) = Entries.find? inner "samples" := by
    intro inner found
    show (Entries.find? fields "output").bind _ = _
    rw [found]
    rfl
  constructor
  · intro read
    obtain ⟨_, _, built⟩ := of_bind_ok read
    obtain ⟨_, _, pairBuilt, outputBuilt, same⟩ := Json.Shape.of_build_seq built
    obtain ⟨_, nameBuilt, rfl⟩ := Json.Shape.of_build_map pairBuilt
    cases same
    obtain ⟨v, found, read⟩ := Json.Shape.of_build_required outputBuilt
    obtain ⟨inner, rfl, innerSorted⟩ := output v found
    rw [samples inner found]
    exact ⟨build_name_iff.1 nameBuilt, (decodeSamples_iff innerSorted).1 read⟩
  · rintro ⟨named, given, fits⟩
    cases found : Entries.find? fields "output" with
    | none =>
        have none : samples? (.obj fields) = none := by
          show (Entries.find? fields "output").bind _ = _
          rw [found]
          rfl
        rw [none] at given
        cases given
    | some v =>
        obtain ⟨inner, rfl, innerSorted⟩ := output v found
        rw [samples inner found] at given
        apply Json.recordOfFields_ok
          ((Json.Shape.lawful_optional _ _).map.seq (Json.Shape.lawful_required _ _))
          (Json.sorted_obj_eq_self.1 sorted).1
        rw [Json.Shape.build_seq, Json.Shape.build_map, build_name_iff.2 named,
          Json.Shape.build_required found, (decodeSamples_iff innerSorted).2 ⟨given, fits⟩]
        rfl

theorem sorted_samples {e v : Json} (sorted : e.sorted = e) (given : samples? e = some v) :
    v.sorted = v := by
  obtain ⟨output, found, inner⟩ := Option.bind_eq_some_iff.1 given
  exact (Json.Part.of_get? inner).sorted ((Json.Part.of_get? found).sorted sorted)

theorem readable_iff {m e : Json} {entries : List Json} (sorted : e.sorted = e)
    (lists : Lists m entries) (here : e ∈ entries) :
    (∃ entry, decodeEntry e = .ok entry) ↔ Readable e := by
  constructor
  · rintro ⟨⟨name, counts⟩, read⟩
    obtain ⟨named, given, fits⟩ := (decodeEntry_iff sorted lists here).1 read
    exact ⟨⟨name, named⟩, counts.toJson, given, isHistogram_of_counts (Counts.decode_toJson fits)⟩
  · rintro ⟨⟨name, named⟩, samples, given, histogram⟩
    obtain ⟨counts, read⟩ := exists_counts histogram
    obtain ⟨rfl, fits⟩ := (Counts.decode_iff (sorted_samples sorted given)).1 read
    exact ⟨(name, counts), (decodeEntry_iff sorted lists here).2 ⟨named, given, fits⟩⟩

/-! ## What is read of a message -/

theorem Lists.sorted {m : Json} {entries : List Json} (lists : Lists m entries)
    (sorted : m.sorted = m) : ∀ e ∈ entries, e.sorted = e := by
  intro e here
  exact Json.Part.sorted (.item here) ((Json.Part.of_get? lists.listed).sorted sorted)

/-- A message that lists entries is read as what is read of them. -/
theorem decode_iff {m : Json} {entries : List Json} {values : List (Option String × Counts)}
    (sorted : m.sorted = m) (lists : Lists m entries) :
    decode m = .ok values ↔ entries.mapM decodeEntry = .ok values := by
  have listed := lists.listed
  cases m with
  | obj fields =>
      have found' : Entries.find? fields "emulator_output" = some (.arr entries) := listed
      constructor
      · intro read
        obtain ⟨_, _, built⟩ := of_bind_ok read
        obtain ⟨_, found, read⟩ := Json.Shape.of_build_required built
        cases found.symm.trans found'
        exact read
      · intro read
        apply Json.recordOfFields_ok (Json.Shape.lawful_required _ _)
          (Json.sorted_obj_eq_self.1 sorted).1
        rw [Json.Shape.build_required found']
        exact read
  | _ => cases listed

theorem mirrors_executions {m : Json} {entries : List Json}
    {values : List (Option String × Counts)} (sorted : m.sorted = m) (lists : Lists m entries)
    (read : entries.mapM decodeEntry = .ok values) : Mirrors entries ⟨executions 0 values⟩ := by
  obtain ⟨length, each⟩ := List.forall₂_iff_get.1 (forall₂_of_mapM read)
  refine ⟨(length_executions values 0).trans length.symm, ?_⟩
  intro i e at_
  obtain ⟨inEntries, rfl⟩ := List.getElem?_eq_some_iff.1 at_
  have inValues : i < values.length := length ▸ inEntries
  have here : entries[i] ∈ entries := List.getElem_mem inEntries
  obtain ⟨named, given, _⟩ :=
    (decodeEntry_iff (lists.sorted sorted _ here) lists here).1 (each i inEntries inValues)
  refine ⟨⟨values[i].1.getD (placeholder i), values[i].2⟩, ?_, ⟨_, named, rfl⟩, given⟩
  show (executions 0 values)[i]? = _
  rw [getElem?_executions, List.getElem?_eq_getElem inValues, Nat.zero_add]
  rfl

/-- A list of entries can be read, and is not empty, exactly if every entry can be read. -/
theorem exists_read_iff {m : Json} {entries : List Json} (sorted : m.sorted = m)
    (lists : Lists m entries) :
    (∃ values, decode m = .ok values ∧ values ≠ []) ↔
      entries ≠ [] ∧ ∀ e ∈ entries, Readable e := by
  constructor
  · rintro ⟨values, read, nonempty⟩
    obtain ⟨length, each⟩ := of_mapM ((decode_iff sorted lists).1 read)
    refine ⟨?_, ?_⟩
    · rintro rfl
      exact nonempty (List.eq_nil_of_length_eq_zero length)
    · intro e here
      exact (readable_iff (lists.sorted sorted e here) lists here).1 (each e here)
  · rintro ⟨nonempty, each⟩
    obtain ⟨values, read⟩ := exists_mapM (d := decodeEntry) fun e here =>
      (readable_iff (lists.sorted sorted e here) lists here).2 (each e here)
    refine ⟨values, (decode_iff sorted lists).2 read, ?_⟩
    rintro rfl
    exact nonempty (List.eq_nil_of_length_eq_zero (of_mapM read).1.symm)

theorem ofMessage_of_decode {m : Json} {values : List (Option String × Counts)}
    (read : decode m = .ok values) (nonempty : values ≠ []) :
    ofMessage m = .ok ⟨executions 0 values⟩ := by
  rw [ofMessage, Status.reading, read]
  cases values with
  | nil => exact absurd rfl nonempty
  | cons _ _ => rfl

/-- A message of which no entry is read is kept as it came. -/
theorem ofMessage_refused {m : Json} (none : ¬ ∃ values, decode m = .ok values ∧ values ≠ []) :
    ∃ reason, ofMessage m = .error (.malformedResponse reason m) := by
  rw [ofMessage, Status.reading]
  cases read : decode m with
  | error mismatch => exact ⟨_, rfl⟩
  | ok values =>
      cases values with
      | nil => exact ⟨_, rfl⟩
      | cons entry rest => exact absurd ⟨_, read, List.cons_ne_nil entry rest⟩ none

end Results

/-! ## Results of a job -/

/-- What becomes of a results message, for every job and session.  Let the message, in key order as
every value is read, list entries that are objects, with outputs that are objects where they have
any.  It is accepted exactly if there is an entry and all of them can be read.  An accepted message
gives one execution for each entry, in their order, with the entry's samples and under its name, or
under the placeholder of its position if it has none.  What is not accepted is malformed, and the
whole message is kept with the fault. -/
theorem results_mirror_entries {m : Json} {entries : List Json} (sorted : m.sorted = m)
    (lists : Results.Lists m entries) (job : String) (s : Session) :
    ((∃ r, (backend.results m job s).1 = .ok r) ↔
        entries ≠ [] ∧ ∀ e ∈ entries, Results.Readable e) ∧
      (∀ r, (backend.results m job s).1 = .ok r → Results.Mirrors entries r) ∧
        (¬ (entries ≠ [] ∧ ∀ e ∈ entries, Results.Readable e) →
          ∃ reason, (backend.results m job s).1 = .error (.malformedResponse reason m)) := by
  have results : (backend.results m job s).1 = Results.ofMessage m := rfl
  rw [results, ← Results.exists_read_iff sorted lists]
  refine ⟨⟨?_, ?_⟩, ?_, Results.ofMessage_refused⟩
  · rintro ⟨r, accepted⟩
    by_contra none
    obtain ⟨reason, refused⟩ := Results.ofMessage_refused none
    rw [refused] at accepted
    cases accepted
  · rintro ⟨values, read, nonempty⟩
    exact ⟨_, Results.ofMessage_of_decode read nonempty⟩
  · intro r accepted
    obtain ⟨values, read, rfl⟩ := Results.of_ofMessage accepted
    exact Results.mirrors_executions sorted lists ((Results.decode_iff sorted lists).1 read)

/-- The outputs of two circuits, the second without a name. -/
def firstNamed : List Json :=
  [.obj [("circuit_name", .str "bell"), ("output", .obj [("samples", .obj [("00", .int 1)])])],
    .obj [("circuit_name", .null),
      ("output", .obj [("samples", .obj [("0", .int 2), ("1", .int 3)])])]]

theorem lists_firstNamed :
    Results.Lists (.obj [("emulator_output", .arr firstNamed)]) firstNamed where
  listed := rfl
  entry := by simp [firstNamed]
  output := by simp [firstNamed, Json.get?, Entries.find?]

/-- The entry without a name becomes `circuit_1`. -/
theorem results_mirror_firstNamed :
    (Json.obj [("emulator_output", .arr firstNamed)]).sorted
        = .obj [("emulator_output", .arr firstNamed)] ∧
      Results.Lists (.obj [("emulator_output", .arr firstNamed)]) firstNamed ∧
        ∃ r, (backend.results (.obj [("emulator_output", .arr firstNamed)]) "fq-1" .fresh).1
            = .ok r ∧
          Results.Mirrors firstNamed r ∧ r.executions.map (·.name) = ["bell", "circuit_1"] := by
  have sorted : (Json.obj [("emulator_output", .arr firstNamed)]).sorted
      = .obj [("emulator_output", .arr firstNamed)] := rfl
  obtain ⟨_, mirrors, _⟩ := results_mirror_entries sorted lists_firstNamed "fq-1" .fresh
  exact ⟨sorted, lists_firstNamed, _, rfl, mirrors _ rfl, rfl⟩

end Fermioniq
end QuantumJobs

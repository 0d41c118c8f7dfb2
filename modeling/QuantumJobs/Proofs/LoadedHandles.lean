import QuantumJobs.Proofs.AcceptedShapes
import QuantumJobs.Proofs.ReadInstants
import QuantumJobs.Proofs.ReadValues
import QuantumJobs.Proofs.SharedFile

/-!
# LoadedHandles — handles that were loaded, saved and loaded again

The reader of records takes more than the writer gives: fields in any order or by position, absent
and null fields, offsets.  All this is gone once a record has been read.  What was read is a handle
whose own record is read back as that same handle, so a record that is saved again stays as it is.
Between a record and its text there are numerals, though, and a float is not always what its text is
read as.
-/

namespace QuantumJobs

open Json (ByNameOrPosition Place)

/-! ## Parts of a value -/

namespace Json

/-- A value stands directly inside another one. -/
inductive Part (w : Json) : Json → Prop where
  | item {items : List Json} : w ∈ items → Part w (.arr items)
  | entry {key : String} {fields : List (String × Json)} : (key, w) ∈ fields → Part w (.obj fields)

namespace Part

variable {v w : Json}

theorem nesting {depth : Nat} (part : w.Part v) (within : v.nesting ≤ depth + 1) :
    w.nesting ≤ depth := by
  cases part with
  | item here => exact nesting_arr_le.1 within w here
  | entry here => exact nesting_obj_le.1 within _ here

theorem sorted (part : w.Part v) (sorted : v.sorted = v) : w.sorted = w := by
  cases part with
  | item here => exact sorted_arr_eq_self.1 sorted w here
  | entry here => exact (sorted_obj_eq_self.1 sorted).2 _ here

theorem fits (part : w.Part v) (fits : v.Fits) : w.Fits := by
  refine ⟨part.sorted fits.1, ?_⟩
  have same := fits.2
  cases part with
  | item here => exact beqItems_self_iff.1 same w here
  | entry here => exact beqFields_self_iff.1 same _ here

/-- What a value gives under the name of a field stands inside it. -/
theorem of_given {names : List String} {field : String → Option Json} {name : String}
    (given : ByNameOrPosition names v field) (found : field name = some w) : w.Part v := by
  cases given with
  | byName fields => exact .entry (Entries.mem_of_find? found)
  | byPosition _ => exact .item (List.of_mem_zip (Entries.mem_of_find? found)).2

end Part

/-- Null under an optional field is no value. -/
theorem Shape.ne_null_of_build_optional {α : Type} {name : String} {d : Decoder α} {a : α}
    {source : String → Option Json} (built : (optional name d).build source = .ok (some a)) :
    source name ≠ some .null := by
  intro null
  rw [build_optional null] at built
  cases built

end Json

/-! ## Results that were read -/

theorem Dict.mem_ofList {α : Type} {es : List (String × α)} {e : String × α}
    (here : e ∈ (Dict.ofList es).entries) : e ∈ es := by
  unfold ofList insertMany at here
  rw [foldl_insert_entries] at here
  rcases Json.mem_of_mem_foldl_insert here with given | none
  · exact given
  · cases none

theorem Counts.fits_of_decode {m : Json} {counts : Counts} (read : decode m = .ok counts) :
    counts.Fits := by
  intro e here
  cases m with
  | obj fields =>
      obtain ⟨es, each, same⟩ := of_bind_ok read
      cases same
      obtain ⟨f, _, entry⟩ := exists_of_mapM each (Dict.mem_ofList here)
      obtain ⟨n, number, rfl⟩ := of_map_ok entry
      exact (Json.of_asUnsigned number).2
  | _ => cases read

theorem SampleResult.fits_of_decode {place : Place} {m : Json} {r : SampleResult}
    (read : decode place m = .ok r) : r.Fits := by
  obtain ⟨field, _, built⟩ := Json.given_of_record read
  obtain ⟨executions, listBuilt, rfl⟩ := Json.Shape.of_build_map built
  obtain ⟨listed, _, listRead⟩ := Json.Shape.of_build_required listBuilt
  intro e here
  cases listed with
  | arr items =>
      obtain ⟨item, _, itemRead⟩ := exists_of_mapM listRead here
      obtain ⟨source, _, itemBuilt⟩ := Json.given_of_record itemRead
      obtain ⟨_, counts, nameBuilt, countsBuilt, same⟩ := Json.Shape.of_build_seq itemBuilt
      obtain ⟨name, _, rfl⟩ := Json.Shape.of_build_map nameBuilt
      obtain ⟨_, _, countsRead⟩ := Json.Shape.of_build_required countsBuilt
      cases same
      exact Counts.fits_of_decode countsRead
  | _ => cases listRead

/-! ## Failures that were read -/

/-- What is known of a failure that was read from a value. -/
structure Failure.ReadFrom (f : Failure) (m : Json) : Prop where
  code : ∀ c, f.code = some c → Json.minSigned ≤ c ∧ c ≤ Json.maxSigned
  response : ∀ v, f.response = some v → v.Part m
  notNull : f.response ≠ some .null

theorem Failure.readFrom_of_decode {place : Place} {m : Json} {f : Failure}
    (read : decode place m = .ok f) : f.ReadFrom m := by
  obtain ⟨field, given, built⟩ := Json.given_of_record read
  obtain ⟨_, response?, built₃, response, rfl⟩ := Json.Shape.of_build_seq built
  obtain ⟨_, message, built₂, _, rfl⟩ := Json.Shape.of_build_seq built₃
  obtain ⟨_, code?, built₁, code, rfl⟩ := Json.Shape.of_build_seq built₂
  obtain ⟨kind, _, rfl⟩ := Json.Shape.of_build_map built₁
  refine ⟨?_, ?_, ?_⟩
  · intro c same
    obtain rfl : code? = some c := same
    obtain ⟨_, _, number⟩ := Json.Shape.of_build_optional code
    exact (Json.of_asIntegerIn number).2
  · intro v same
    obtain rfl : response? = some v := same
    obtain ⟨w, found, same⟩ := Json.Shape.of_build_optional response
    cases same
    exact .of_given given found
  · intro same
    obtain rfl : response? = some .null := same
    obtain ⟨w, found, same⟩ := Json.Shape.of_build_optional response
    cases same
    exact Json.Shape.ne_null_of_build_optional response found

theorem Failure.ReadFrom.restored {f : Failure} {m : Json} (readFrom : f.ReadFrom m) :
    f.restored = f := by
  obtain ⟨kind, code, message, response⟩ := f
  have notNull := readFrom.notNull
  cases response with
  | none => rfl
  | some v =>
      cases v with
      | null => exact absurd rfl notNull
      | _ => rfl

/-! ## Outcomes that were read -/

/-- An outcome was read from a value: its result or its failure was read from a part of it. -/
inductive JobOutcome.ReadFrom (m : Json) : JobOutcome → Prop where
  | done {w : Json} {r : SampleResult} :
      SampleResult.decode .held w = .ok r → ReadFrom m (.done r)
  | failed {w : Json} {f : Failure} :
      w.Part m → Failure.decode .held w = .ok f → ReadFrom m (.failed f)

theorem JobOutcome.readFrom_of_shape {m : Json} {tag : Phase} {field : String → Option Json}
    {o : JobOutcome} (inside : ∀ name w, field name = some w → w.Part m)
    (built : (shape tag).build field = .ok o) : o.ReadFrom m := by
  -- Every tag but that of a job that is done stands for a failure.
  have failure : ((JobOutcome.failed <$> Json.Shape.required "failure" (Failure.decode .held)).build
      field = .ok o) → o.ReadFrom m := by
    intro built
    obtain ⟨f, required, rfl⟩ := Json.Shape.of_build_map built
    obtain ⟨w, found, read⟩ := Json.Shape.of_build_required required
    exact .failed (inside _ w found) read
  cases tag with
  | done =>
      obtain ⟨r, required, rfl⟩ := Json.Shape.of_build_map built
      obtain ⟨_, _, read⟩ := Json.Shape.of_build_required required
      exact .done read
  | created => exact failure built
  | submitted => exact failure built
  | polling => exact failure built
  | failed => exact failure built

theorem JobOutcome.readFrom_of_decode {m : Json} {o : JobOutcome} (read : decode m = .ok o) :
    o.ReadFrom m := by
  cases m with
  | obj fields =>
      unfold decode at read
      cases tagged : Entries.find? fields tagName with
      | none => simp [tagged] at read
      | some v =>
          simp only [tagged] at read
          obtain ⟨tag, _, record⟩ := of_bind_ok read
          obtain ⟨_, _, built⟩ := of_bind_ok record
          exact readFrom_of_shape (fun _ _ found => .entry (Entries.mem_of_find? found)) built
  | arr items =>
      cases items with
      | nil => cases read
      | cons v items =>
          obtain ⟨tag, _, record⟩ := of_bind_ok read
          obtain ⟨_, _, built⟩ := of_bind_ok record
          refine readFrom_of_shape ?_ built
          intro name w found
          have inItems := (List.of_mem_zip (Entries.mem_of_find? found)).2
          exact .item (List.mem_cons_of_mem v inItems)
  | _ => cases read

/-! ## Handles that were read -/

namespace Handle

/-- The value is an object that states the version of the format. -/
def StatesVersion (v : Json) : Prop :=
  ∃ fields, v = .obj fields ∧ Entries.find? fields "version" = some (.int recordVersion)

theorem of_versionOf {v : Json} (stated : versionOf v = .ok recordVersion) : StatesVersion v := by
  unfold versionOf at stated
  split at stated
  · rename_i n found
    cases stated
    obtain ⟨w, here, number⟩ := Option.bind_eq_some_iff.1 found
    have one : w = .int recordVersion := by
      unfold Json.asUnsigned? at number
      split at number
      · rename_i k
        split at number
        · rename_i unsigned
          rw [Option.some.injEq] at number
          rw [← Int.toNat_of_nonneg unsigned.1, number]
        · cases number
      · cases number
    cases v with
    | obj fields => exact ⟨fields, rfl, one ▸ here⟩
    | _ => cases here
  · cases stated

/-- A value that states no version, or another one, is refused for that, whatever else it holds. -/
theorem refused_of_version {v : Json} (other : ¬ StatesVersion v) :
    ∃ message, ofJson v = .error (.invalidState message) := by
  unfold ofJson
  cases stated : versionOf v with
  | error fault =>
      unfold versionOf at stated
      split at stated
      · cases stated
      · cases stated
        exact ⟨_, rfl⟩
  | ok n =>
      have differs : ¬ n = recordVersion := by
        rintro rfl
        exact other (of_versionOf stated)
      simp only [Bind.bind, Except.bind, if_neg differs]
      exact ⟨_, rfl⟩

/-- What is known of a handle that was read from a value. -/
structure ReadFrom (h : Handle) (v : Json) : Prop where
  submittedAt : h.submittedAt.Valid
  initialDelay : ∃ n, n ≤ Json.maxUnsigned ∧ h.initialDelay = .ofMillis n
  outcome : ∀ o, h.outcome = some o → ∃ m, m.Part v ∧ o.ReadFrom m

theorem of_asInstant {v : Json} {t : Instant} (read : Json.asInstant v = .ok t) : t.Valid := by
  cases v with
  | str s =>
      cases text : Instant.ofText s with
      | error fault => simp [Json.asInstant, text, Except.mapError] at read
      | ok t' =>
          simp only [Json.asInstant, text, Except.mapError, Except.ok.injEq] at read
          exact read ▸ Instant.valid_of_ofText text
  | _ => cases read

theorem readFrom_of_shape {v : Json} {h : Handle} {field : String → Option Json}
    (inside : ∀ name w, field name = some w → w.Part v) (built : shape.build field = .ok h) :
    h.ReadFrom v := by
  -- The fields are built from left to right, so the last one comes off first.
  obtain ⟨_, outcome?, built₇, outcome, rfl⟩ := Json.Shape.of_build_seq built
  obtain ⟨_, submittedAt, built₆, instant, rfl⟩ := Json.Shape.of_build_seq built₇
  obtain ⟨_, delay, built₅, millis, rfl⟩ := Json.Shape.of_build_seq built₆
  obtain ⟨_, kernels, built₄, _, rfl⟩ := Json.Shape.of_build_seq built₅
  obtain ⟨_, config, built₃, _, rfl⟩ := Json.Shape.of_build_seq built₄
  obtain ⟨_, statusPath, built₂, _, rfl⟩ := Json.Shape.of_build_seq built₃
  obtain ⟨_, job, built₁, _, rfl⟩ := Json.Shape.of_build_seq built₂
  obtain ⟨backend, _, rfl⟩ := Json.Shape.of_build_map built₁
  obtain ⟨_, _, instantRead⟩ := Json.Shape.of_build_required instant
  obtain ⟨n, number, rfl⟩ := Json.Shape.of_build_map millis
  obtain ⟨_, _, numberRead⟩ := Json.Shape.of_build_required number
  refine ⟨of_asInstant instantRead, ⟨n, (Json.of_asUnsigned numberRead).2, rfl⟩, ?_⟩
  intro o same
  obtain rfl : outcome? = some o := same
  obtain ⟨m, found, read⟩ := Json.Shape.of_build_optional outcome
  exact ⟨m, inside _ m found, JobOutcome.readFrom_of_decode read⟩

theorem readFrom_of_ofJson {v : Json} {h : Handle} (read : ofJson v = .ok h) :
    StatesVersion v ∧ h.ReadFrom v := by
  obtain ⟨n, stated, read⟩ := of_bind_ok read
  by_cases current : n = recordVersion
  · subst current
    simp only [if_true] at read
    refine ⟨of_versionOf stated, ?_⟩
    cases decoded : decodeRecord v with
    | error m => simp [decoded, Except.mapError] at read
    | ok h' =>
        simp only [decoded, Except.mapError, Except.ok.injEq] at read
        subst read
        obtain ⟨field, given, built⟩ := Json.given_of_record decoded
        obtain ⟨_, _, versionBuilt, shapeBuilt, same⟩ := Json.Shape.of_build_seq built
        obtain ⟨_, _, rfl⟩ := Json.Shape.of_build_map versionBuilt
        cases same
        exact readFrom_of_shape (fun _ _ found => .of_given given found) shapeBuilt
  · simp only [if_neg current] at read
    cases read

/-! ## Records that stay -/

variable {h : Handle} {v : Json}

/-- A kept message stands three levels deep in the value from which its handle was read. -/
theorem ReadFrom.kept (readFrom : h.ReadFrom v) {m : Json} (kept : h.kept? = some m) :
    ∃ failure outcome, m.Part failure ∧ failure.Part outcome ∧ outcome.Part v := by
  obtain ⟨f, failed, response⟩ := kept?_eq_some.1 kept
  obtain ⟨outcome, inRecord, read⟩ := readFrom.outcome _ failed
  cases read with
  | failed inOutcome decoded =>
      exact ⟨_, _, (Failure.readFrom_of_decode decoded).response m response, inOutcome, inRecord⟩

theorem ReadFrom.keptNesting_le (readFrom : h.ReadFrom v) {limit : Nat}
    (within : v.nesting ≤ limit + 3) : h.keptNesting ≤ limit := by
  unfold keptNesting
  cases kept : h.kept? with
  | none => exact Nat.zero_le _
  | some m =>
      obtain ⟨_, _, inFailure, inOutcome, inRecord⟩ := readFrom.kept kept
      exact inFailure.nesting (inOutcome.nesting (inRecord.nesting within))

/-- A handle that was read fits if the message that it keeps does. -/
theorem ReadFrom.fits (readFrom : h.ReadFrom v) (kept : ∀ m, h.kept? = some m → m.Fits) :
    h.Fits where
  submittedAt := readFrom.submittedAt
  outcome := by
    intro o ended
    obtain ⟨m, _, read⟩ := readFrom.outcome o ended
    cases read with
    | done decoded => exact SampleResult.fits_of_decode decoded
    | @failed w f inOutcome decoded =>
        refine ⟨(Failure.readFrom_of_decode decoded).code, ?_⟩
        intro response here
        exact kept response (kept?_eq_some.2 ⟨f, ended, here⟩)

/-- Reading a record leaves nothing for a second reading to change. -/
theorem ReadFrom.restored (readFrom : h.ReadFrom v) : h.restored = h := by
  have delay := (ofMillis_delayMillis_iff h).2 readFrom.initialDelay
  have keeps : ¬ h.KeepsNull := by
    rintro ⟨f, failed, null⟩
    obtain ⟨m, _, read⟩ := readFrom.outcome _ failed
    cases read with
    | failed _ decoded => exact (Failure.readFrom_of_decode decoded).notNull null
  have outcome := restored_outcome keeps
  obtain ⟨backend, job, statusPath, config, kernels, initialDelay, submittedAt, o⟩ := h
  unfold Handle.restored at outcome ⊢
  simp only at outcome ⊢
  rw [delay, outcome]

theorem fits_of_ofJson (vFits : v.Fits) (read : ofJson v = .ok h) : h.Fits := by
  have readFrom := (readFrom_of_ofJson read).2
  refine readFrom.fits ?_
  intro m kept
  obtain ⟨_, _, inFailure, inOutcome, inRecord⟩ := readFrom.kept kept
  exact inFailure.fits (inOutcome.fits (inRecord.fits vFits))

/-- A handle that was read from a value has a record that is read back as that handle. -/
theorem ofJson_toJson_of_ofJson (vFits : v.Fits) (read : ofJson v = .ok h) :
    ofJson h.toJson = .ok h := by
  rw [ofJson_toJson (fits_of_ofJson vFits read), (readFrom_of_ofJson read).2.restored]

/-- A handle that fits equals itself. -/
theorem beq_self_of_fits (fits : h.Fits) : (h == h) = true := by
  rw [beq_eq, beq_outcome_self fits]
  simp

/-! ## Files that stay -/

open Files (Path Tree)

/-- A handle that was read from the contents of a file, and whose kept message has floats that are
read back, has a text that is read back as that handle. -/
theorem ofBlob_toText_of_ofBlob {b : Blob} (read : ofBlob b = .ok h)
    (legible : ∀ m, h.kept? = some m → m.Legible) : ofBlob (.text h.toText) = .ok h := by
  unfold ofBlob at read
  cases value : Json.ofBlob b with
  | error e => simp [value, Except.mapError, Bind.bind, Except.bind] at read
  | ok v =>
      simp only [value, Except.mapError, Bind.bind, Except.bind] at read
      obtain ⟨sorted, within⟩ := Json.orderly_of_ofBlob value
      have readFrom := (readFrom_of_ofJson read).2
      have shallow : h.keptNesting ≤ 124 := readFrom.keptNesting_le within
      have fits : h.Fits := by
        refine readFrom.fits ?_
        intro m kept
        obtain ⟨_, _, inFailure, inOutcome, inRecord⟩ := readFrom.kept kept
        exact ⟨inFailure.sorted (inOutcome.sorted (inRecord.sorted sorted)),
          Json.beq_self_of_legible (legible m kept)⟩
      rw [ofBlob_toText fits legible, if_pos shallow, readFrom.restored]

/-- What becomes of a tree when the handle at a path is loaded and saved there, any number of
times. -/
inductive Resaved (p : Path) (t : Tree) : Tree → Prop where
  | never : Resaved p t t
  | again {t₁ t₂ : Tree} {h : Handle} :
      Resaved p t t₁ → load t₁ p = .ok h → save t₁ p h = .ok t₂ → Resaved p t t₂

theorem load_of_resaved {t t' : Tree} {p : Path} (loaded : load t p = .ok h)
    (legible : ∀ m, h.kept? = some m → m.Legible) (resaved : Resaved p t t') :
    load t' p = .ok h := by
  induction resaved with
  | never => exact loaded
  | again _ loaded' saved ih =>
      obtain ⟨b, _, read⟩ := of_bind_ok ih
      rw [ih] at loaded'
      cases loaded'
      rw [load_save saved, ofBlob_toText_of_ofBlob read legible]

/-- A value that is not an object with the current version is refused for its version, whatever else
it holds.  A handle that was read from a value has a record that is read back as an equal handle
with the same record, and however often a handle that was loaded from a file is saved there and
loaded again, it stays as it was.  Values have their fields in key order and equal themselves; of
the message that a handle keeps it is asked, for files, that its floats are read back from their own
texts. -/
theorem unchanged_by_resaving (v : Json) (h : Handle) (t t' : Tree) (p : Path) :
    (¬ StatesVersion v → ∃ message, ofJson v = .error (.invalidState message)) ∧
    (v.Fits → ofJson v = .ok h →
      StatesVersion v ∧
        ∃ h', ofJson h.toJson = .ok h' ∧ (h' == h) = true ∧ h'.toJson = h.toJson) ∧
    (load t p = .ok h → (∀ m, h.kept? = some m → m.Legible) → Resaved p t t' →
      load t' p = .ok h) := by
  refine ⟨refused_of_version, ?_, load_of_resaved⟩
  intro vFits read
  have again := ofJson_toJson_of_ofJson vFits read
  have same := beq_self_of_fits (fits_of_ofJson vFits read)
  exact ⟨(readFrom_of_ofJson read).1, h, again, same, rfl⟩

theorem of_toOption {ε α : Type} {x : Except ε α} {a : α} (some : x.toOption = some a) :
    x = .ok a := by
  cases x with
  | error e => cases some
  | ok a' =>
      cases some
      rfl

/-- A record that no writer gives: the outcome by position, a null field, another offset, a leap
second, no kernels. -/
def handWritten : Json :=
  .obj [("backend", .str "X"), ("config", .obj [("base_url", .str "https://x.test")]),
    ("initial_poll_delay_ms", .int 10), ("job_id", .str "j-1"),
    ("outcome", .arr [.str "failed", .arr [.str "malformed_response", .null, .str "unreadable",
      .str "gone"]]),
    ("status_path", .str "/jobs/j-1"), ("submitted_at", .str "2017-01-01 01:29:60+0130"),
    ("version", .int 1)]

theorem fits_handWritten : handWritten.Fits := by
  refine ⟨?_, by decide +kernel⟩
  rfl

/-- The hand-written record is read, with the message that its failure keeps. -/
theorem ofJson_handWritten :
    ∃ h, ofJson handWritten = .ok h ∧ h.kept? = some (.str "gone") := by
  have read : ((ofJson handWritten).toOption.bind (·.kept?)).bind Json.asString? = some "gone" := by
    decide +kernel
  obtain ⟨m, kept, text⟩ := Option.bind_eq_some_iff.1 read
  obtain ⟨h, loaded, kept⟩ := Option.bind_eq_some_iff.1 kept
  refine ⟨h, of_toOption loaded, ?_⟩
  cases m with
  | str s =>
      cases text
      exact kept
  | _ => cases text

/-- The hand-written record is read, and its handle is kept in a file that is saved again. -/
theorem unchanged_by_resaving_handWritten :
    ¬ StatesVersion .null ∧ handWritten.Fits ∧
      ∃ h, ofJson handWritten = .ok h ∧ (∀ m, h.kept? = some m → m.Legible) ∧
        load (SharedFile.folder h) "job.json" = .ok h ∧
        Resaved "job.json" (SharedFile.folder h) (SharedFile.folder h) ∧
        (∃ message, ofJson .null = .error (.invalidState message)) ∧
        StatesVersion handWritten ∧
        (∃ h', ofJson h.toJson = .ok h' ∧ (h' == h) = true ∧ h'.toJson = h.toJson) ∧
        load (SharedFile.folder h) "job.json" = .ok h := by
  obtain ⟨h, read, kept⟩ := ofJson_handWritten
  have unversioned : ¬ StatesVersion .null := by
    rintro ⟨fields, same, _⟩
    cases same
  have legible : ∀ m, h.kept? = some m → m.Legible := by
    intro m here
    rw [kept] at here
    cases here
    exact .str "gone"
  have shallow : h.keptNesting ≤ 124 := by
    unfold keptNesting
    rw [kept]
    decide
  have loaded : load (SharedFile.folder h) "job.json" = .ok h := by
    rw [load_save (SharedFile.save_folder h h), ofBlob_toText (fits_of_ofJson fits_handWritten read)
      legible, if_pos shallow, (readFrom_of_ofJson read).2.restored]
  have resaved : Resaved "job.json" (SharedFile.folder h) (SharedFile.folder h) :=
    .again .never loaded (SharedFile.save_folder h h)
  obtain ⟨refused, _⟩ := unchanged_by_resaving .null h (SharedFile.folder h) (SharedFile.folder h)
    "job.json"
  obtain ⟨_, stays, staysInFile⟩ := unchanged_by_resaving handWritten h (SharedFile.folder h)
    (SharedFile.folder h) "job.json"
  obtain ⟨version, again⟩ := stays fits_handWritten read
  exact ⟨unversioned, fits_handWritten, h, read, legible, loaded, resaved, refused unversioned,
    version, again, staysInFile loaded legible resaved⟩

/-- The text of a record whose failure keeps a message that is a float with more digits than a float
needs. -/
def textWithFloat : String :=
  "\x7b\"version\":1,\"backend\":\"X\",\"job_id\":\"1\",\"status_path\":\"/\"," ++
    "\"config\":\x7b\x7d,\"initial_poll_delay_ms\":1," ++
    "\"submitted_at\":\"2026-01-01T00:00:00Z\"," ++
    "\"outcome\":[\"failed\",[\"other\",null,\"\",123456789.123456789]]\x7d"

/-- The text of the float that is read from `123456789.123456789` is read as another float. -/
theorem reloaded_differs_textWithFloat :
    ∃ h h', load (SharedFile.folderWith (.text textWithFloat)) "job.json" = .ok h ∧
      save (SharedFile.folderWith (.text textWithFloat)) "job.json" h = .ok (SharedFile.folder h) ∧
      load (SharedFile.folder h) "job.json" = .ok h' ∧ (h' == h) = false := by
  have read : ((ofBlob (.text textWithFloat)).toOption.bind fun h =>
      (ofBlob (.text h.toText)).toOption.map fun h' => h' == h) = some false := by decide +kernel
  obtain ⟨h, first, again⟩ := Option.bind_eq_some_iff.1 read
  obtain ⟨h', second, differs⟩ := Option.map_eq_some_iff.1 again
  have saved := SharedFile.save_folderWith (.text textWithFloat) h
  refine ⟨h, h', ?_, saved, ?_, differs⟩
  · rw [SharedFile.load_folderWith, of_toOption first]
  · rw [load_save saved, of_toOption second]

end Handle
end QuantumJobs

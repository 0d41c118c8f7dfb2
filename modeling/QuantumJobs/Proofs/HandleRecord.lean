import QuantumJobs.Handle.Record
import QuantumJobs.Proofs.Decoding
import QuantumJobs.Proofs.InstantText

/-!
# HandleRecord — handles written and read

The record of a handle is read back field by field.  What comes back is the handle with its initial
delay cut to whole milliseconds, and a failure that keeps null as its response comes back without
one.  Numbers are taken from the ranges of the machine types that carry them, and messages are
values as a reader gives them.
-/

namespace QuantumJobs

open Json (Place sortedEntries sorted_obj)

/-! ## What machine types can hold -/

/-- A value as a reader gives it: the fields of its objects ascend, and it equals itself, which
floats do that are numbers. -/
def Json.Fits (v : Json) : Prop := v.sorted = v ∧ (v == v) = true

def Counts.Fits (c : Counts) : Prop := ∀ e ∈ c.entries, e.2 ≤ Json.maxUnsigned

def SampleResult.Fits (r : SampleResult) : Prop := ∀ e ∈ r.executions, e.counts.Fits

structure Failure.Fits (f : Failure) : Prop where
  code : ∀ c, f.code = some c → Json.minSigned ≤ c ∧ c ≤ Json.maxSigned
  response : ∀ v, f.response = some v → v.Fits

def JobOutcome.Fits : JobOutcome → Prop
  | .done result => result.Fits
  | .failed failure => failure.Fits

structure Handle.Fits (h : Handle) : Prop where
  submittedAt : h.submittedAt.Valid
  outcome : ∀ o, h.outcome = some o → o.Fits

/-! ## Numbers and texts -/

theorem Json.asIntegerIn_int {low high n : Int} (type : String) (above : low ≤ n)
    (below : n ≤ high) : asIntegerIn low high type (.int n) = .ok n := by
  simp [asIntegerIn, above, below]

theorem Json.asUnsigned_int {n : Nat} (fits : n ≤ maxUnsigned) : asUnsigned (.int n) = .ok n := by
  have high : (n : Int) ≤ (maxUnsigned : Int) := by exact_mod_cast fits
  unfold asUnsigned
  rw [asIntegerIn_int "u64" (Int.natCast_nonneg n) high]
  rfl

theorem Json.asSigned_int {n : Int} (low : minSigned ≤ n) (high : n ≤ maxSigned) :
    asSigned (.int n) = .ok n :=
  asIntegerIn_int "i64" low high

theorem Config.decode_sorted (c : Config) : Config.decode (Json.ofStrings c).sorted = .ok c := by
  have sorted : (Json.ofStrings c).sorted = Json.ofStrings c :=
    Json.sorted_obj_entries c (f := Json.str) fun s => by simp [Json.sorted]
  rw [sorted]
  exact Json.dictOf_entries (f := Json.str) fun e _ => rfl

/-! ## Results -/

theorem Counts.sorted_toJson (c : Counts) : c.toJson.sorted = c.toJson :=
  Json.sorted_obj_entries c (f := fun n : Nat => .int n) fun n => by simp [Json.sorted]

theorem Counts.decode_toJson {c : Counts} (fits : c.Fits) : Counts.decode c.toJson = .ok c :=
  Json.dictOf_entries (f := fun n : Nat => .int n) fun e here => Json.asUnsigned_int (fits e here)

/-- An execution as it stands in a result's document. -/
def Execution.document (e : Execution) : Json :=
  .obj [("name", .str e.name), ("counts", e.counts.toJson)]

theorem SampleResult.decodeExecution_sorted {e : Execution} (fits : e.counts.Fits) (place : Place) :
    decodeExecution place e.document.sorted = .ok e := by
  unfold Execution.document
  rw [sorted_obj]
  apply Json.recordOfFields_ok
  · exact (Json.Shape.lawful_required _ _).map.seq (Json.Shape.lawful_required _ _)
  · exact Json.ascending_sortedEntries _
  · have name : Entries.find? (sortedEntries [("name", .str e.name), ("counts", e.counts.toJson)])
        "name" = some (.str e.name) := by
      simp [sortedEntries, Json.sortedFields, Json.sorted]
    have counts : Entries.find? (sortedEntries [("name", .str e.name), ("counts", e.counts.toJson)])
        "counts" = some e.counts.toJson := by
      simp [sortedEntries, Json.sortedFields, Counts.sorted_toJson]
    rw [Json.Shape.build_seq, Json.Shape.build_map, Json.Shape.build_required name,
      Json.Shape.build_required counts, Counts.decode_toJson fits]
    rfl

theorem SampleResult.decode_sorted {r : SampleResult} (fits : r.Fits) (place : Place) :
    SampleResult.decode place r.document.sorted = .ok r := by
  have document : r.document = .obj [("executions", .arr (r.executions.map Execution.document))] :=
    rfl
  rw [document, sorted_obj]
  apply Json.recordOfFields_ok
  · exact (Json.Shape.lawful_required _ _).map
  · exact Json.ascending_sortedEntries _
  · have executions : Entries.find?
        (sortedEntries [("executions", .arr (r.executions.map Execution.document))]) "executions"
          = some (.arr (r.executions.map fun e => e.document.sorted)) := by
      simp [sortedEntries, Json.sortedFields, Json.sorted_arr_map]
    have items : Json.listOf (decodeExecution place)
        (.arr (r.executions.map fun e => e.document.sorted)) = .ok r.executions :=
      Json.listOf_map fun e here => decodeExecution_sorted (fits e here) place
    rw [Json.Shape.build_map, Json.Shape.build_required executions, items]
    rfl

/-! ## Failures -/

theorem FailureKind.decode_name (k : FailureKind) (place : Place) :
    FailureKind.decode place (.str k.name) = .ok k := by
  cases k <;> rfl

/-- A failure as it is read back: a response of null counts as none. -/
def Failure.restored (f : Failure) : Failure :=
  { f with response := f.response.filter fun v => !v.isNull }

/-- A response of null and none stand for the same fault. -/
theorem Failure.toFault_restored (f : Failure) : f.restored.toFault = f.toFault := by
  obtain ⟨kind, code, message, response⟩ := f
  have response' : (response.filter fun v => !v.isNull).getD .null = response.getD .null := by
    cases response with
    | none => rfl
    | some v => cases v <;> rfl
  cases kind with
  | malformedResponse => exact congrArg (Fault.malformedResponse message) response'
  | _ => rfl

theorem Failure.lawful_shape (place : Place) :
    (Failure.mk <$> Json.Shape.required "kind" (FailureKind.decode place)
      <*> Json.Shape.optional "code" Json.asSigned
      <*> Json.Shape.required "message" Json.asText
      <*> Json.Shape.optional "response" Json.asIs).Lawful :=
  (((Json.Shape.lawful_required _ _).map.seq (Json.Shape.lawful_optional _ _)).seq
    (Json.Shape.lawful_required _ _)).seq (Json.Shape.lawful_optional _ _)

/-- A response is read as it is, and null as none. -/
theorem Json.nullable_asIs (v : Json) :
    Json.nullable Json.asIs v = .ok (Option.filter (fun v => !v.isNull) (some v)) := by
  cases v <;> rfl

/-- A code that fits is written as a number and read back. -/
theorem Failure.build_code {f : Failure} (fits : f.Fits) {source : String → Option Json}
    (found : source "code" = f.code.map Json.int) :
    (Json.Shape.optional "code" Json.asSigned).build source = .ok f.code := by
  cases code : f.code with
  | none =>
      rw [code] at found
      exact Json.Shape.build_optional_absent found
  | some c =>
      rw [code] at found
      obtain ⟨low, high⟩ := fits.code c code
      rw [Json.Shape.build_optional found]
      show (Json.asSigned (.int c)).map some = _
      rw [Json.asSigned_int low high]
      rfl

theorem Failure.build_response {f : Failure} {source : String → Option Json}
    (found : source "response" = f.response) :
    (Json.Shape.optional "response" Json.asIs).build source = .ok f.restored.response := by
  unfold restored
  cases response : f.response with
  | none =>
      rw [response] at found
      exact Json.Shape.build_optional_absent found
  | some v =>
      rw [response] at found
      rw [Json.Shape.build_optional found]
      exact Json.nullable_asIs v

/-- The fields of a failure's document. -/
def Failure.fields (f : Failure) : List (String × Json) :=
  [("kind", .str f.kind.name)] ++ (f.code.map fun c => ("code", Json.int c)).toList
    ++ [("message", .str f.message)] ++ (f.response.map fun r => ("response", r)).toList

/-- What is found in a failure's document under the names of its fields. -/
theorem Failure.find?_fields {f : Failure} (fits : f.Fits) :
    Entries.find? (sortedEntries f.fields) "kind" = some (.str f.kind.name) ∧
      Entries.find? (sortedEntries f.fields) "code" = f.code.map Json.int ∧
      Entries.find? (sortedEntries f.fields) "message" = some (.str f.message) ∧
      Entries.find? (sortedEntries f.fields) "response" = f.response := by
  unfold fields
  -- A field that may be missing is looked up in documents with it and without it.
  cases code : f.code with
  | none =>
      cases response : f.response with
      | none => simp [sortedEntries, Json.sortedFields, Json.sorted, Entries.find?]
      | some v =>
          have same : v.sorted = v := (fits.response v response).1
          simp [sortedEntries, Json.sortedFields, Json.sorted, Entries.find?, same]
  | some c =>
      cases response : f.response with
      | none => simp [sortedEntries, Json.sortedFields, Json.sorted, Entries.find?]
      | some v =>
          have same : v.sorted = v := (fits.response v response).1
          simp [sortedEntries, Json.sortedFields, Json.sorted, same]

theorem Failure.decode_sorted {f : Failure} (fits : f.Fits) (place : Place) :
    Failure.decode place f.document.sorted = .ok f.restored := by
  obtain ⟨kind, code, message, response⟩ := find?_fields fits
  have document : f.document = .obj f.fields := rfl
  rw [document, sorted_obj]
  apply Json.recordOfFields_ok (lawful_shape place) (Json.ascending_sortedEntries _)
  rw [Json.Shape.build_seq, Json.Shape.build_seq, Json.Shape.build_seq, Json.Shape.build_map,
    Json.Shape.build_required kind, build_code fits code, Json.Shape.build_required message,
    build_response response, FailureKind.decode_name]
  rfl

/-! ## Outcomes -/

/-- An outcome as it is read back. -/
def JobOutcome.restored : JobOutcome → JobOutcome
  | .done result => .done result
  | .failed failure => .failed failure.restored

theorem JobOutcome.lawful_shape : ∀ tag, (shape tag).Lawful
  | .done => (Json.Shape.lawful_required _ _).map
  | .failed => (Json.Shape.lawful_required _ _).map
  | .created => (Json.Shape.lawful_required _ _).map
  | .submitted => (Json.Shape.lawful_required _ _).map
  | .polling => (Json.Shape.lawful_required _ _).map

/-- What is found in a document of a tag and one more field. -/
theorem JobOutcome.find?_tagged (tag : String) {field : String} (v : Json)
    (other : ¬ "state" = field) :
    Entries.find? (sortedEntries [("state", .str tag), (field, v)]) "state" = some (.str tag) ∧
      Entries.find? (sortedEntries [("state", .str tag), (field, v)]) field = some v.sorted := by
  have other' : ¬ field = "state" := fun same => other same.symm
  constructor
  · simp [sortedEntries, Json.sortedFields, Json.sorted, other']
  · simp [sortedEntries, Json.sortedFields]

theorem JobOutcome.decode_sorted {o : JobOutcome} (fits : o.Fits) :
    JobOutcome.decode o.document.sorted = .ok o.restored := by
  cases o with
  | done result =>
      have other : ¬ "state" = "result" := by decide
      obtain ⟨tag, value⟩ := find?_tagged "done" result.document other
      unfold document
      rw [sorted_obj]
      unfold decode tagName
      simp only [tag]
      apply Json.recordOfFields_ok (lawful_shape .done) (Json.ascending_sortedEntries _)
      unfold shape
      rw [Json.Shape.build_map, Json.Shape.build_required value, SampleResult.decode_sorted fits]
      rfl
  | failed failure =>
      have other : ¬ "state" = "failure" := by decide
      obtain ⟨tag, value⟩ := find?_tagged "failed" failure.document other
      unfold document
      rw [sorted_obj]
      unfold decode tagName
      simp only [tag]
      apply Json.recordOfFields_ok (lawful_shape .failed) (Json.ascending_sortedEntries _)
      unfold shape
      rw [Json.Shape.build_map, Json.Shape.build_required value, Failure.decode_sorted fits]
      rfl

/-! ## Handles -/

namespace Handle

/-- The handle that a handle's record is read back as. -/
def restored (h : Handle) : Handle :=
  { h with
    initialDelay := .ofMillis h.delayMillis
    outcome := h.outcome.map JobOutcome.restored }

theorem outcome_restored_of_failed {h : Handle} {failure : Failure}
    (failed : h.outcome = some (.failed failure)) :
    h.restored.outcome = some (.failed failure.restored) := by
  unfold restored
  rw [failed]
  rfl

/-- The fields of a handle's document. -/
def fields (h : Handle) : List (String × Json) :=
  [("version", .int recordVersion), ("backend", .str h.backend), ("job_id", .str h.job),
    ("status_path", .str h.statusPath), ("config", .ofStrings h.config),
    ("kernels", .arr (h.kernels.map .str)), ("initial_poll_delay_ms", .int h.delayMillis),
    ("submitted_at", .str h.submittedAt.toText)]
    ++ (h.outcome.map fun o => ("outcome", o.document)).toList

/-- What is found in a handle's record under the names of its fields. -/
structure Recorded (h : Handle) (source : String → Option Json) : Prop where
  version : source "version" = some (.int recordVersion)
  backend : source "backend" = some (.str h.backend)
  job : source "job_id" = some (.str h.job)
  statusPath : source "status_path" = some (.str h.statusPath)
  config : source "config" = some (Json.ofStrings h.config).sorted
  kernels : source "kernels" = some (.arr (h.kernels.map .str))
  initialDelay : source "initial_poll_delay_ms" = some (.int h.delayMillis)
  submittedAt : source "submitted_at" = some (.str h.submittedAt.toText)
  outcome : source "outcome" = h.outcome.map fun o => o.document.sorted

theorem recorded_fields (h : Handle) : h.Recorded (Entries.find? (sortedEntries h.fields)) := by
  unfold fields
  cases outcome : h.outcome with
  | none =>
      constructor <;>
        simp [sortedEntries, Json.sortedFields, Json.sorted, Json.sortedItems_eq_map,
          Entries.find?, outcome]
  | some o =>
      constructor <;>
        simp [sortedEntries, Json.sortedFields, Json.sorted, Json.sortedItems_eq_map, outcome]

theorem build_outcome {h : Handle} (fits : h.Fits) {source : String → Option Json}
    (recorded : h.Recorded source) :
    (Json.Shape.optional "outcome" JobOutcome.decode).build source = .ok h.restored.outcome := by
  have found := recorded.outcome
  unfold restored
  cases outcome : h.outcome with
  | none =>
      rw [outcome] at found
      exact Json.Shape.build_optional_absent found
  | some o =>
      rw [outcome] at found
      rw [Json.Shape.build_optional found]
      have read := JobOutcome.decode_sorted (fits.outcome o outcome)
      -- The document of an outcome is an object, so it is not taken for null.
      have isObject : ∃ es, o.document.sorted = .obj es := by
        cases o with
        | done result => exact ⟨_, sorted_obj _⟩
        | failed failure => exact ⟨_, sorted_obj _⟩
      obtain ⟨es, object⟩ := isObject
      show Json.nullable JobOutcome.decode o.document.sorted = _
      rw [object] at read ⊢
      show (JobOutcome.decode (.obj es)).map some = _
      rw [read]
      rfl

theorem lawful_shape : shape.Lawful :=
  (((((((Json.Shape.lawful_required _ _).map.seq (Json.Shape.lawful_required _ _)).seq
    (Json.Shape.lawful_required _ _)).seq (Json.Shape.lawful_required _ _)).seq
    (Json.Shape.lawful_withDefault _ _ _)).seq (Json.Shape.lawful_required _ _).map).seq
    (Json.Shape.lawful_required _ _)).seq (Json.Shape.lawful_optional _ _)

theorem build_shape {h : Handle} (fits : h.Fits) {source : String → Option Json}
    (recorded : h.Recorded source) : shape.build source = .ok h.restored := by
  have delay : h.delayMillis ≤ Json.maxUnsigned := Nat.min_le_right _ _
  have kernels : Json.listOf Json.asText (.arr (h.kernels.map .str)) = .ok h.kernels :=
    Json.listOf_map fun k _ => rfl
  have instant : Json.asInstant (.str h.submittedAt.toText) = .ok h.submittedAt := by
    show (Instant.ofText h.submittedAt.toText).mapError Json.Mismatch.noInstant = _
    rw [Instant.ofText_toText fits.submittedAt]
    rfl
  unfold shape
  simp only [Json.Shape.build_seq, Json.Shape.build_map, Json.Shape.build_required recorded.backend,
    Json.Shape.build_required recorded.job, Json.Shape.build_required recorded.statusPath,
    Json.Shape.build_required recorded.config, Json.Shape.build_withDefault recorded.kernels,
    Json.Shape.build_required recorded.initialDelay,
    Json.Shape.build_required recorded.submittedAt, build_outcome fits recorded,
    Config.decode_sorted, kernels, instant, Json.asUnsigned_int delay]
  rfl

/-- A handle whose values fit is read back from its record. -/
theorem ofJson_toJson {h : Handle} (fits : h.Fits) : ofJson h.toJson = .ok h.restored := by
  have recorded := recorded_fields h
  have document : h.toJson = .obj (sortedEntries h.fields) := sorted_obj h.fields
  have version : versionOf h.toJson = .ok recordVersion := by
    unfold versionOf Json.get?
    rw [document]
    simp only [recorded.version, Option.bind_some]
    rfl
  -- The version is looked at twice, on its own and as a field of the record.
  have short : Json.asShort (.int recordVersion) = .ok recordVersion := rfl
  have read : decodeRecord (.obj (sortedEntries h.fields)) = .ok h.restored := by
    apply Json.recordOfFields_ok
    · exact (Json.Shape.lawful_required _ _).map.seq lawful_shape
    · exact Json.ascending_sortedEntries _
    · rw [Json.Shape.build_seq, Json.Shape.build_map, Json.Shape.build_required recorded.version,
        short, build_shape fits recorded]
      rfl
  unfold ofJson
  rw [version, document]
  simp only [Bind.bind, Except.bind, read]
  rfl

end Handle

end QuantumJobs

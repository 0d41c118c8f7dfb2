import QuantumJobs.Fermioniq.Session
import QuantumJobs.Proofs.JsonText
import QuantumJobs.Proofs.ReachedHandles

/-!
# RecordText — the text of a handle file and what it is read back as

A handle's record keeps a malformed message three levels deep: in a failure, in an outcome, in the
record.  The reader that took the message from the network allows for a nesting of 127, and the
reader of the record allows for no more.  So the text of a record is read back exactly if the
message that it keeps is nested at most 124 deep.
-/

namespace QuantumJobs

open Json (Legible nesting)

/-! ## The nesting of a record -/

/-- The malformed message that a job's failure keeps. -/
def Handle.kept? (h : Handle) : Option Json := h.failure?.bind (·.response)

/-- How deep the message is nested that a handle keeps, if it keeps one. -/
def Handle.keptNesting (h : Handle) : Nat := h.kept?.elim 0 nesting

theorem SampleResult.nesting_document (r : SampleResult) : r.document.nesting ≤ 4 := by
  show (Json.obj [("executions", .arr (r.executions.map Execution.document))]).nesting ≤ 3 + 1
  rw [Json.nesting_obj_le]
  simp only [List.mem_singleton, forall_eq]
  rw [Json.nesting_arr_le]
  intro v here
  obtain ⟨e, _, rfl⟩ := List.mem_map.1 here
  rw [Execution.document, Json.nesting_obj_le]
  simp only [List.mem_cons, List.not_mem_nil, or_false, forall_eq_or_imp, forall_eq]
  refine ⟨Nat.zero_le _, ?_⟩
  show (Json.obj (e.counts.entries.map fun c => (c.1, .int c.2))).nesting ≤ 0 + 1
  rw [Json.nesting_obj_le]
  intro f here
  obtain ⟨c, _, rfl⟩ := List.mem_map.1 here
  exact Nat.le_refl 0

theorem Failure.nesting_document (f : Failure) {limit : Nat} :
    f.document.nesting ≤ limit + 1 ↔ ∀ v, f.response = some v → v.nesting ≤ limit := by
  show (Json.obj f.fields).nesting ≤ limit + 1 ↔ _
  rw [Json.nesting_obj_le]
  constructor
  · intro all v kept
    exact all ("response", v) (by simp [fields, kept])
  · intro kept g here
    simp only [fields, List.mem_append, List.mem_singleton, Option.mem_toList,
      Option.map_eq_some_iff] at here
    rcases here with ((rfl | ⟨c, _, rfl⟩) | rfl) | ⟨v, some, rfl⟩
    · exact Nat.zero_le _
    · exact Nat.zero_le _
    · exact Nat.zero_le _
    · exact kept v some

theorem JobOutcome.nesting_document (o : JobOutcome) {limit : Nat} (enough : 5 ≤ limit) :
    o.document.nesting ≤ limit ↔
      ∀ f v, o = .failed f → f.response = some v → v.nesting + 2 ≤ limit := by
  obtain ⟨limit, rfl⟩ := Nat.exists_eq_add_of_le' (Nat.le_trans (by decide : 2 ≤ 5) enough)
  cases o with
  | done result =>
      have shallow := result.nesting_document
      refine iff_of_true ?_ ?_
      · show (Json.obj [("state", .str "done"), ("result", result.document)]).nesting ≤ _
        rw [Json.nesting_obj_le]
        simp only [List.mem_cons, List.not_mem_nil, or_false, forall_eq_or_imp, forall_eq]
        exact ⟨Nat.zero_le _, by omega⟩
      · intro f v other
        cases other
  | failed failure =>
      show (Json.obj [("state", .str "failed"), ("failure", failure.document)]).nesting ≤ _ ↔ _
      rw [Json.nesting_obj_le]
      simp only [List.mem_cons, List.not_mem_nil, or_false, forall_eq_or_imp, forall_eq]
      rw [failure.nesting_document]
      constructor
      · rintro ⟨_, kept⟩ f v same response
        cases same
        have := kept v response
        omega
      · intro kept
        refine ⟨Nat.zero_le _, ?_⟩
        intro v response
        have := kept failure v rfl response
        omega

namespace Handle

variable {h : Handle}

theorem kept?_eq_some {v : Json} :
    h.kept? = some v ↔ ∃ f, h.outcome = some (.failed f) ∧ f.response = some v := by
  unfold kept? failure?
  rcases h.outcome with _ | (result | failure) <;> simp

/-- The fields of a record that every record has. -/
theorem nesting_own {f : String × Json}
    (own : f ∈ [("version", .int recordVersion), ("backend", .str h.backend), ("job_id", .str h.job),
      ("status_path", .str h.statusPath), ("config", .ofStrings h.config),
      ("kernels", .arr (h.kernels.map .str)), ("initial_poll_delay_ms", .int h.delayMillis),
      ("submitted_at", .str h.submittedAt.toText)]) : f.2.nesting ≤ 1 := by
  simp only [List.mem_cons, List.not_mem_nil, or_false] at own
  rcases own with rfl | rfl | rfl | rfl | rfl | rfl | rfl | rfl
  case inr.inr.inr.inr.inl =>
    show (Json.obj (h.config.entries.map fun e => (e.1, .str e.2))).nesting ≤ 0 + 1
    rw [Json.nesting_obj_le]
    intro g here
    obtain ⟨e, _, rfl⟩ := List.mem_map.1 here
    exact Nat.le_refl 0
  case inr.inr.inr.inr.inr.inl =>
    show (Json.arr (h.kernels.map .str)).nesting ≤ 0 + 1
    rw [Json.nesting_arr_le]
    intro v here
    obtain ⟨k, _, rfl⟩ := List.mem_map.1 here
    exact Nat.le_refl 0
  all_goals exact Nat.zero_le _

/-- A record's own parts are nested five deep at most, and what it keeps of a message lies three
levels below it. -/
theorem nesting_document (h : Handle) {limit : Nat} (enough : 6 ≤ limit) :
    h.document.nesting ≤ limit ↔ h.keptNesting + 3 ≤ limit := by
  obtain ⟨limit, rfl⟩ := Nat.exists_eq_add_of_le' (Nat.le_trans (by decide : 1 ≤ 6) enough)
  have kept : h.keptNesting + 3 ≤ limit + 1 ↔ ∀ v, h.kept? = some v → v.nesting + 2 ≤ limit := by
    unfold keptNesting
    cases h.kept? with
    | none => simpa using by omega
    | some v => simp
  rw [kept]
  show (Json.obj h.fields).nesting ≤ limit + 1 ↔ _
  rw [Json.nesting_obj_le, fields, List.forall_mem_append]
  -- A record's own fields fit below every limit from six on, so the outcome decides.
  constructor
  · rintro ⟨_, last⟩ v here
    obtain ⟨f, failed, response⟩ := kept?_eq_some.1 here
    have outcome := last ("outcome", (JobOutcome.failed f).document) (by simp [failed])
    exact ((JobOutcome.failed f).nesting_document (by omega)).1 outcome f v rfl response
  · intro shallow
    constructor
    · intro f own
      exact Nat.le_trans (nesting_own own) (by omega)
    · intro f last
      simp only [Option.mem_toList, Option.map_eq_some_iff] at last
      obtain ⟨o, outcome, rfl⟩ := last
      rw [o.nesting_document (by omega)]
      rintro f v rfl response
      exact shallow v (kept?_eq_some.2 ⟨f, outcome, response⟩)

/-! ## The numbers of a record -/

end Handle

theorem Json.heldByWord_nat {n : Nat} (fits : n ≤ maxUnsigned) : HeldByWord n := by
  have high : (n : Int) ≤ (maxUnsigned : Int) := by exact_mod_cast fits
  have low : minSigned ≤ 0 := by decide
  exact ⟨Int.le_trans low (Int.natCast_nonneg n), high⟩

theorem Json.heldByWord_signed {n : Int} (low : minSigned ≤ n) (high : n ≤ maxSigned) :
    HeldByWord n := by
  have above : maxSigned ≤ (maxUnsigned : Int) := by decide
  exact ⟨low, Int.le_trans high above⟩

theorem SampleResult.legible_document {r : SampleResult} (fits : r.Fits) : r.document.Legible := by
  refine .obj ?_
  intro f here
  obtain rfl := List.mem_singleton.1 here
  refine .arr ?_
  intro v here
  obtain ⟨e, execution, rfl⟩ := List.mem_map.1 here
  refine .obj ?_
  intro f here
  simp only [List.mem_cons, List.not_mem_nil, or_false] at here
  rcases here with rfl | rfl
  · exact .str _
  · refine .obj ?_
    intro f here
    obtain ⟨c, count, rfl⟩ := List.mem_map.1 here
    exact .int (Json.heldByWord_nat (fits e execution c count))

theorem Failure.legible_document {f : Failure} (fits : f.Fits)
    (kept : ∀ v, f.response = some v → v.Legible) : f.document.Legible := by
  show (Json.obj f.fields).Legible
  refine .obj ?_
  intro g here
  simp only [fields, List.mem_append, List.mem_singleton, Option.mem_toList,
    Option.map_eq_some_iff] at here
  rcases here with ((rfl | ⟨c, code, rfl⟩) | rfl) | ⟨v, response, rfl⟩
  · exact .str _
  · obtain ⟨low, high⟩ := fits.code c code
    exact .int (Json.heldByWord_signed low high)
  · exact .str _
  · exact kept v response

theorem JobOutcome.legible_document {o : JobOutcome} (fits : o.Fits)
    (kept : ∀ f v, o = .failed f → f.response = some v → v.Legible) : o.document.Legible := by
  cases o with
  | done result =>
      refine .obj ?_
      intro f here
      simp only [List.mem_cons, List.not_mem_nil, or_false] at here
      rcases here with rfl | rfl
      · exact .str _
      · exact SampleResult.legible_document fits
  | failed failure =>
      refine .obj ?_
      intro f here
      simp only [List.mem_cons, List.not_mem_nil, or_false] at here
      rcases here with rfl | rfl
      · exact .str _
      · exact Failure.legible_document fits fun v response => kept failure v rfl response

namespace Handle

variable {h : Handle}

theorem legible_document (fits : h.Fits) (kept : ∀ v, h.kept? = some v → v.Legible) :
    h.document.Legible := by
  show (Json.obj h.fields).Legible
  refine .obj ?_
  intro f here
  rcases List.mem_append.1 here with own | last
  · simp only [List.mem_cons, List.not_mem_nil, or_false] at own
    have texts : ∀ names : List String, (Json.arr (names.map .str)).Legible := by
      intro names
      refine .arr ?_
      intro v here
      obtain ⟨k, _, rfl⟩ := List.mem_map.1 here
      exact .str k
    have config : (Json.ofStrings h.config).Legible := by
      refine .obj ?_
      intro g here
      obtain ⟨e, _, rfl⟩ := List.mem_map.1 here
      exact .str e.2
    rcases own with rfl | rfl | rfl | rfl | rfl | rfl | rfl | rfl
    · exact .int (Json.heldByWord_nat (by decide))
    · exact .str _
    · exact .str _
    · exact .str _
    · exact config
    · exact texts _
    · exact .int (Json.heldByWord_nat (Nat.min_le_right _ _))
    · exact .str _
  · simp only [Option.mem_toList, Option.map_eq_some_iff] at last
    obtain ⟨o, outcome, rfl⟩ := last
    refine JobOutcome.legible_document (fits.outcome o outcome) ?_
    rintro f v rfl response
    exact kept v (kept?_eq_some.2 ⟨f, outcome, response⟩)

/-! ## Reading the text of a record -/

/-- The fault of a text that is no JSON. -/
def illFormedText : Fault := .serialization .illFormed

theorem ofBlob_toText (fits : h.Fits) (kept : ∀ v, h.kept? = some v → v.Legible) :
    ofBlob (.text h.toText) =
      if h.keptNesting ≤ 124 then .ok h.restored else .error illFormedText := by
  have text := Json.ofText_pretty (legible_document fits kept)
  have shallow : h.document.nesting ≤ Json.maxDepth ↔ h.keptNesting ≤ 124 := by
    rw [nesting_document h (by decide)]
    show h.keptNesting + 3 ≤ 124 + 3 ↔ _
    exact Nat.add_le_add_iff_right
  have read : Json.ofBlob (.text h.toText)
      = if h.keptNesting ≤ 124 then .ok h.toJson else .error .illFormed := by
    show Json.ofText h.document.pretty = _
    rw [text]
    simp only [shallow]
    rfl
  unfold ofBlob
  rw [read]
  by_cases fitting : h.keptNesting ≤ 124
  · simp only [fitting, if_true, Except.mapError, Bind.bind, Except.bind]
    exact ofJson_toJson fits
  · simp only [fitting, if_false, Except.mapError, Bind.bind, Except.bind]
    rfl

/-- The text of the record of a handle that can come about is read back exactly if the message that
it keeps, if it keeps one, is nested at most 124 deep; a message that is nested deeper, which the
network's reader takes up to 127, makes the text ill-formed to the reader of records.  Of the
message's numbers it is asked that each is read back from its own text. -/
theorem ofBlob_toText_iff (reachable : h.Reachable) (kept : ∀ v, h.kept? = some v → v.Legible) :
    (∃ h', ofBlob (.text h.toText) = .ok h') ↔ ∀ v, h.kept? = some v → v.nesting ≤ 124 := by
  have shallow : h.keptNesting ≤ 124 ↔ ∀ v, h.kept? = some v → v.nesting ≤ 124 := by
    unfold keptNesting
    cases h.kept? with
    | none => simp
    | some v => simp
  rw [ofBlob_toText reachable.fits kept, ← shallow]
  by_cases fitting : h.keptNesting ≤ 124
  · simp [fitting]
  · simp [fitting]

/-- A job that failed on a response of null has a record that is read back. -/
theorem ofBlob_toText_refusedJob :
    refusedJob.Reachable ∧ refusedJob.kept? = some .null ∧
      ∃ h', ofBlob (.text refusedJob.toText) = .ok h' := by
  have kept : ∀ v, refusedJob.kept? = some v → v = .null := by
    intro v same
    cases same
    rfl
  refine ⟨reachable_refusedJob, rfl, ?_⟩
  refine (ofBlob_toText_iff reachable_refusedJob ?_).2 ?_
  · intro v here
    rw [kept v here]
    exact .null
  · intro v here
    rw [kept v here]
    exact Nat.zero_le _

end Handle

/-! ## A message that is nested too deep for a record -/

/-- Null inside arrays, nested as deep as a number says. -/
def Json.nested : Nat → Json
  | 0 => .null
  | n + 1 => .arr [nested n]

theorem Json.nesting_nested : ∀ n, (nested n).nesting = n
  | 0 => rfl
  | n + 1 => by
      show max (nested n).nesting 0 + 1 = n + 1
      rw [nesting_nested n, Nat.max_zero]

theorem Json.fits_nested : ∀ n, (nested n).Fits
  | 0 => ⟨rfl, rfl⟩
  | n + 1 => by
      obtain ⟨sorted, same⟩ := fits_nested n
      constructor
      · show Json.arr [(nested n).sorted] = Json.arr [nested n]
        rw [sorted]
      · show ((nested n == nested n) && true) = true
        rw [same]
        rfl

theorem Json.legible_nested : ∀ n, (nested n).Legible
  | 0 => .null
  | n + 1 => by
      refine .arr ?_
      intro v here
      obtain rfl := List.mem_singleton.1 here
      exact legible_nested n

namespace Fermioniq

/-- A status that lacks its code, with a detail that is nested. -/
def statusWithDetail (depth : Nat) : Json :=
  .obj [("detail", .nested depth), ("status", .str "finished")]

/-- A network that accepts every job and answers every status check with a nested detail. -/
def detailNetwork (depth : Nat) : Network Unit :=
  ⟨fun r wire => (.ok (match r.method with
    | .post => .obj [("id", .str "j-1")]
    | .get => statusWithDetail depth), wire)⟩

/-- A session that is logged in. -/
def loggedIn : Session where
  settings := some {
    baseUrl := "https://q.test", apiKey := "", accessId := "i", accessSecret := "s"
    userAgent := defaultUserAgent, remoteConfig := none, noiseModel := none, project := none
    bondDim := none, persisted := Dict.empty }
  tokens := ⟨some ⟨"t", some "u", ⟨0, 0, 0⟩⟩, none, 1, 1⟩

/-- The job that was accepted. -/
def acceptedJob : Handle where
  backend := backendName
  job := "j-1"
  statusPath := Session.statusPath "j-1"
  config := Dict.empty
  kernels := ["bell"]
  initialDelay := pollingInterval
  submittedAt := ⟨0, 0, 0⟩
  outcome := none

/-- The job after its first poll. -/
def brokenJob (depth : Nat) : Handle :=
  { acceptedJob with
    outcome := some (.failed
      ⟨.malformedResponse, none, "finished job has no 'status_code'",
        some (statusWithDetail depth)⟩) }

theorem run_submit (depth : Nat) :
    ((backend.submit [⟨"bell", "Q"⟩]).run (detailNetwork depth) ⟨0, 0, 0⟩ ⟨loggedIn, (), []⟩).1
      = .ok acceptedJob := by
  rfl

theorem decode_statusWithDetail (depth : Nat) :
    Status.decode (statusWithDetail depth) = .ok ⟨"finished", none, none, none⟩ := by
  have before : "detail" < "status" := by decide
  have ascending : Entries.Ascending [("detail", Json.nested depth), ("status", .str "finished")] :=
    List.pairwise_pair.2 before
  unfold Status.decode statusWithDetail
  apply Json.recordOfFields_ok _ ascending
  · have status : Entries.find? [("detail", Json.nested depth), ("status", .str "finished")] "status"
        = some (.str "finished") := by
      simp [Entries.find?]
    have absent : ∀ name ∈ ["status_code", "status_message", "error"],
        Entries.find? [("detail", Json.nested depth), ("status", .str "finished")] name = none := by
      simp [Entries.find?]
    rw [Json.Shape.build_seq, Json.Shape.build_seq, Json.Shape.build_seq, Json.Shape.build_map,
      Json.Shape.build_required status,
      Json.Shape.build_optional_absent (absent "status_code" (by simp)),
      Json.Shape.build_optional_absent (absent "status_message" (by simp)),
      Json.Shape.build_optional_absent (absent "error" (by simp))]
    rfl
  · exact (((Json.Shape.lawful_required _ _).map.seq (Json.Shape.lawful_optional _ _)).seq
      (Json.Shape.lawful_optional _ _)).seq (Json.Shape.lawful_optional _ _)

/-- The status lacks its code, whatever the detail is. -/
theorem isDoneMessage_statusWithDetail (depth : Nat) :
    Status.isDoneMessage (statusWithDetail depth)
      = .error (.malformedResponse "finished job has no 'status_code'" (statusWithDetail depth)) := by
  simp [Status.isDoneMessage, Status.reading, decode_statusWithDetail, Status.isDone,
    Except.mapError, Bind.bind, Except.bind]

theorem run_poll (depth : Nat) (line : Line Session Unit) :
    ((backend.poll acceptedJob).run (detailNetwork depth) ⟨0, 0, 0⟩ line).1.2
      = brokenJob depth := by
  have fetched : backend.Fetched (detailNetwork depth) ⟨0, 0, 0⟩ acceptedJob.statusPath line
      (.ok (statusWithDetail depth)) (backend.get (detailNetwork depth) acceptedJob.statusPath line).2 :=
    .accepted rfl fun _ same => by cases same
  have finds := Backend.Finds.badStatus fetched (isDoneMessage_statusWithDetail depth)
  rw [Backend.run_poll_of_pending rfl rfl, Backend.run_check_of_finds finds]
  rfl

theorem fits_statusWithDetail (depth : Nat) : (statusWithDetail depth).Fits := by
  obtain ⟨sorted, same⟩ := Json.fits_nested depth
  constructor
  · show Json.ofFields [("detail", (Json.nested depth).sorted), ("status", .str "finished")] = _
    have after : ¬ "status" < "detail" := by decide
    simp only [sorted, Json.ofFields, List.foldl_cons, List.foldl_nil, Entries.insert, if_neg after]
    rfl
  · show ((Json.nested depth == Json.nested depth) && true) = true
    rw [same]
    rfl

theorem fits_brokenJob (depth : Nat) : (brokenJob depth).Fits where
  submittedAt := by
    show (⟨0, 0, 0⟩ : Instant).Valid
    decide
  outcome := by
    intro o outcome
    cases outcome
    refine ⟨?_, ?_⟩
    · intro c code
      cases code
    · intro v response
      cases response
      exact fits_statusWithDetail depth

theorem legible_statusWithDetail (depth : Nat) : (statusWithDetail depth).Legible := by
  refine .obj ?_
  intro f here
  simp only [List.mem_cons, List.not_mem_nil, or_false] at here
  rcases here with rfl | rfl
  · exact Json.legible_nested depth
  · exact .str _

theorem nesting_statusWithDetail (depth : Nat) :
    (statusWithDetail depth).nesting = depth + 1 := by
  show max (Json.nested depth).nesting 0 + 1 = depth + 1
  rw [Json.nesting_nested, Nat.max_zero]

/-- A status that is nested 125 deep comes out of a text, and what it makes of a job cannot be read
from the text that is saved. -/
theorem saved_unreadable :
    (∃ text, Json.ofText text = .ok (statusWithDetail 124)) ∧
      ((backend.submit [⟨"bell", "Q"⟩]).run (detailNetwork 124) ⟨0, 0, 0⟩ ⟨loggedIn, (), []⟩).1
        = .ok acceptedJob ∧
      Handle.ofBlob (.text ((backend.poll acceptedJob).run (detailNetwork 124) ⟨0, 0, 0⟩
        ⟨loggedIn, (), []⟩).1.2.toText) = .error Handle.illFormedText := by
  refine ⟨⟨(statusWithDetail 124).pretty, ?_⟩, run_submit 124, ?_⟩
  · rw [Json.ofText_pretty (legible_statusWithDetail 124), nesting_statusWithDetail,
      (fits_statusWithDetail 124).1]
    rfl
  · have deep : ¬ (brokenJob 124).keptNesting ≤ 124 := by
      show ¬ (statusWithDetail 124).nesting ≤ 124
      rw [nesting_statusWithDetail]
      decide
    have kept : ∀ v, (brokenJob 124).kept? = some v → v.Legible := by
      intro v same
      cases same
      exact legible_statusWithDetail 124
    rw [run_poll, Handle.ofBlob_toText (fits_brokenJob 124) kept, if_neg deep]

end Fermioniq
end QuantumJobs

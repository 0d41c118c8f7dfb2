import QuantumJobs.Fermioniq.Session
import QuantumJobs.Proofs.AcceptedShapes
import QuantumJobs.Proofs.PollVerdict

/-!
# FinishedJobs — what the emulator must have said for a job to be done

A job is done only after two messages, its status and its results.  From the end of the job follows
what stood in both: a poll accepts no status but one that is finished with code 0, and no results
but counts for one circuit at least.  The messages need not be objects, though.  An array whose items
stand in the order in which the fields of a record are declared is read as that record, and two such
arrays end a job.
-/

namespace QuantumJobs
namespace Fermioniq

open Json (Layout ByName ByNameOrPosition)

/-! ## The messages of a job that is done -/

/-- The status is `finished`, with code 0. -/
def SaysFinished (layout : Layout) (m : Json) : Prop :=
  ∃ field, layout ["status", "status_code", "status_message", "error"] m field ∧
    field "status" = some (.str "finished") ∧ field "status_code" = some (.int 0)

/-- An object that counts every one of its keys. -/
def IsHistogram (m : Json) : Prop :=
  ∃ counts, m = .obj counts ∧ ∀ e ∈ counts, ∃ n : Nat, n ≤ Json.maxUnsigned ∧ e.2 = .int n

/-- The histogram of a circuit. -/
def HoldsSamples (layout : Layout) (m : Json) : Prop :=
  ∃ field samples, layout ["samples"] m field ∧ field "samples" = some samples ∧
    IsHistogram samples

/-- The output of a circuit. -/
def HoldsOutput (layout : Layout) (m : Json) : Prop :=
  ∃ field output, layout ["circuit_name", "output"] m field ∧ field "output" = some output ∧
    HoldsSamples layout output

/-- The outputs of one circuit at least. -/
def HoldsOutputs (layout : Layout) (m : Json) : Prop :=
  ∃ field outputs, layout ["emulator_output"] m field ∧
    field "emulator_output" = some (.arr outputs) ∧ outputs ≠ [] ∧
      ∀ output ∈ outputs, HoldsOutput layout output

/-! ## Status -/

theorem reading_ok {α : Type} {decode : Json.Decoder α} {what : String} {m : Json} {a : α}
    (read : Status.reading decode what m = .ok a) : decode m = .ok a := by
  unfold Status.reading at read
  cases decoded : decode m with
  | error mismatch =>
      rw [decoded] at read
      cases read
  | ok a' =>
      rw [decoded] at read
      cases read
      rfl

/-- Only a status that is finished with code 0 says that a job is done. -/
theorem of_isDone {s : Status} {m : Json} (done : s.isDone m = .ok true) :
    s.status = "finished" ∧ s.code = some 0 := by
  unfold Status.isDone at done
  by_cases finished : s.status = "finished"
  · rw [if_pos finished] at done
    refine ⟨finished, ?_⟩
    cases code : s.code with
    | none =>
        rw [code] at done
        cases done
    | some n =>
        by_cases zero : n = 0
        · rw [zero]
        · simp [code, zero] at done
  · rw [if_neg finished] at done
    cases error : s.errorText with
    | none =>
        rw [error] at done
        cases done
    | some text =>
        rw [error] at done
        cases done

/-- The text and the code of a status stand under their names. -/
theorem given_of_status {m : Json} {s : Status} (read : Status.decode m = .ok s) :
    ∃ field, ByNameOrPosition ["status", "status_code", "status_message", "error"] m field ∧
      field "status" = some (.str s.status) ∧
        ∀ code, s.code = some code → field "status_code" = some (.int code) := by
  obtain ⟨field, given, built⟩ := Json.given_of_record read
  -- The fields are built from left to right, so the last one comes off first.
  obtain ⟨_, _, built₃, _, rfl⟩ := Json.Shape.of_build_seq built
  obtain ⟨_, _, built₂, _, rfl⟩ := Json.Shape.of_build_seq built₃
  obtain ⟨_, code?, built₁, codeBuilt, rfl⟩ := Json.Shape.of_build_seq built₂
  obtain ⟨text, textBuilt, rfl⟩ := Json.Shape.of_build_map built₁
  obtain ⟨_, status, textRead⟩ := Json.Shape.of_build_required textBuilt
  refine ⟨field, given, ?_, ?_⟩
  · rw [status, Json.of_asText textRead]
  · intro code same
    obtain rfl : code? = some code := same
    obtain ⟨_, found, codeRead⟩ := Json.Shape.of_build_optional codeBuilt
    rw [found, (Json.of_asIntegerIn codeRead).1]

theorem saysFinished_of_isDoneMessage {m : Json} (done : Status.isDoneMessage m = .ok true) :
    SaysFinished ByNameOrPosition m := by
  obtain ⟨s, read, done⟩ := of_bind_ok done
  obtain ⟨finished, zero⟩ := of_isDone done
  obtain ⟨field, given, status, code⟩ := given_of_status (reading_ok read)
  rw [finished] at status
  exact ⟨field, given, status, code 0 zero⟩

/-! ## Results -/

theorem isHistogram_of_counts {m : Json} {counts : Counts} (read : Counts.decode m = .ok counts) :
    IsHistogram m := by
  obtain ⟨fields, rfl, each⟩ := Json.of_dictOf read
  refine ⟨fields, rfl, ?_⟩
  intro e here
  obtain ⟨n, read⟩ := each e here
  obtain ⟨int, bounded⟩ := Json.of_asUnsigned read
  exact ⟨n, bounded, int⟩

theorem holdsSamples_of_samples {m : Json} {counts : Counts}
    (read : Results.decodeSamples m = .ok counts) : HoldsSamples ByNameOrPosition m := by
  obtain ⟨field, given, built⟩ := Json.given_of_record read
  obtain ⟨samples, found, read⟩ := Json.Shape.of_build_required built
  exact ⟨field, samples, given, found, isHistogram_of_counts read⟩

theorem holdsOutput_of_entry {m : Json} {entry : Option String × Counts}
    (read : Results.decodeEntry m = .ok entry) : HoldsOutput ByNameOrPosition m := by
  obtain ⟨field, given, built⟩ := Json.given_of_record read
  obtain ⟨_, counts, _, built, _⟩ := Json.Shape.of_build_seq built
  obtain ⟨output, found, read⟩ := Json.Shape.of_build_required built
  exact ⟨field, output, given, found, holdsSamples_of_samples read⟩

theorem holdsOutputs_of_ofMessage {m : Json} {result : SampleResult}
    (read : Results.ofMessage m = .ok result) : HoldsOutputs ByNameOrPosition m := by
  obtain ⟨entries, decoded, accepted⟩ := of_bind_ok read
  -- Without entries there are no results.
  have nonempty : entries ≠ [] := by
    rintro rfl
    cases accepted
  obtain ⟨field, given, built⟩ := Json.given_of_record (reading_ok decoded)
  obtain ⟨_, found, listed⟩ := Json.Shape.of_build_required built
  obtain ⟨outputs, rfl, length, each⟩ := Json.of_listOf listed
  refine ⟨field, outputs, given, found, ?_, ?_⟩
  · rintro rfl
    exact nonempty (List.eq_nil_of_length_eq_zero length)
  · intro output here
    obtain ⟨entry, read⟩ := each output here
    exact holdsOutput_of_entry read

/-! ## Polls -/

variable {τ : Type}

/-- Whatever the network answers, a poll makes a job done only if the status that came says that it
is finished with code 0 and the results that came hold counts for one circuit at least, where the
fields of either may stand in an array by position. -/
theorem done_of_poll (net : Network τ) (now : Instant) {h h' : Handle} {line : Line Session τ}
    {answer : Outcome Poll} (polled : ((backend.poll h).run net now line).1 = (answer, h'))
    (before : h.phase ≠ .done) (after : h'.phase = .done) :
    ∃ status line₁ m line₂,
      backend.Fetched net now h.statusPath line (.ok status) line₁ ∧
        backend.Fetched net now (Session.resultsPath h.job) line₁ (.ok m) line₂ ∧
          SaysFinished ByNameOrPosition status ∧ HoldsOutputs ByNameOrPosition m := by
  obtain ⟨m, line₂, result, collected, results⟩ := Backend.collected_of_poll polled before after
  cases collected with
  | @intro status _ line₁ _ statusFetched isDone message =>
      cases message with
      | status path => cases path
      | separate path fetched =>
          cases path
          exact ⟨status, line₁, m, line₂, statusFetched, fetched,
            saysFinished_of_isDoneMessage isDone, holdsOutputs_of_ofMessage results⟩

/-- A job of the emulator that is still pending. -/
def pendingJob : Handle where
  backend := backendName
  job := "fq-1"
  statusPath := Session.statusPath "fq-1"
  config := Dict.empty
  kernels := ["bell"]
  initialDelay := pollingInterval
  submittedAt := ⟨0, 0, 0⟩
  outcome := none

/-- A network that answers status checks with one message and requests for results with another. -/
def answering (status results : Json) : Network Unit :=
  ⟨fun r wire => (.ok (if r.path = pendingJob.statusPath then status else results), wire)⟩

/-- A line on which nothing has been sent. -/
def freshLine : Line Session Unit := ⟨.fresh, (), []⟩

/-- A poll of the pending job. -/
def pollAnswered (status results : Json) : Outcome Poll × Handle :=
  ((backend.poll pendingJob).run (answering status results) ⟨0, 0, 0⟩ freshLine).1

/-- Messages as the emulator writes them. -/
def statusObject : Json := .obj [("status", .str "finished"), ("status_code", .int 0)]

def resultsObject : Json :=
  .obj [("emulator_output", .arr [.obj [("circuit_name", .str "bell"),
    ("output", .obj [("samples", .obj [("00", .int 1)])])]])]

/-- Objects end a job. -/
theorem objects_done :
    ∃ status line₁ m line₂,
      backend.Fetched (answering statusObject resultsObject) ⟨0, 0, 0⟩ pendingJob.statusPath freshLine
          (.ok status) line₁ ∧
        backend.Fetched (answering statusObject resultsObject) ⟨0, 0, 0⟩
            (Session.resultsPath pendingJob.job) line₁ (.ok m) line₂ ∧
          SaysFinished ByNameOrPosition status ∧ HoldsOutputs ByNameOrPosition m :=
  done_of_poll (answering statusObject resultsObject) ⟨0, 0, 0⟩
    (rfl : pollAnswered statusObject resultsObject = (_, (pollAnswered statusObject resultsObject).2))
    (by decide) (by decide)

/-- The same messages as arrays. -/
def statusArray : Json := .arr [.str "finished", .int 0]

def resultsArray : Json :=
  .arr [.arr [.arr [.str "bell", .arr [.obj [("00", .int 1)]]]]]

/-- It is not so that only objects end a job. -/
theorem arrays_done :
    ¬ ∀ (net : Network Unit) (now : Instant) (h h' : Handle) (line : Line Session Unit)
        (answer : Outcome Poll), ((backend.poll h).run net now line).1 = (answer, h') →
      h.phase ≠ .done → h'.phase = .done →
        ∃ status line₁ m line₂,
          backend.Fetched net now h.statusPath line (.ok status) line₁ ∧
            backend.Fetched net now (Session.resultsPath h.job) line₁ (.ok m) line₂ ∧
              SaysFinished ByName status ∧ HoldsOutputs ByName m := by
  intro objects
  obtain ⟨status, _, _, _, fetched, _, finished, _⟩ :=
    objects (answering statusArray resultsArray) ⟨0, 0, 0⟩ pendingJob
      (pollAnswered statusArray resultsArray).2 freshLine _ rfl (by decide) (by decide)
  -- The only status that came is an array.
  cases Backend.fetched_iff.1 fetched
  obtain ⟨field, given, _⟩ := finished
  cases given

end Fermioniq
end QuantumJobs

import QuantumJobs.Backend.Plain
import QuantumJobs.Polling

/-!
# PollVerdict — what one poll makes of a pending job

A check fetches the status and, if the job is done, the results, and repeats a fetch once if the
token is not accepted.  Its ways out are listed as a relation, which is shown to hold of exactly
what a run of the check gives.  From it follows when a poll ends a job, and how, and that whatever
the network or a login gets wrong leaves the job as it was.
-/

namespace QuantumJobs
namespace Backend

variable {σ τ : Type} (b : Backend σ) (net : Network τ) (now : Instant)

/-! ## Fetching -/

/-- A GET with the headers of the moment. -/
def get (path : String) (line : Line σ τ) : Outcome Json × Line σ τ :=
  let r : Request := .get (b.baseUrl line.state) path (b.headers line.state)
  ((net.answer r line.wire).1,
    { line with wire := (net.answer r line.wire).2, sent := line.sent ++ [r] })

theorem run_getOnce (path : String) (line : Line σ τ) :
    (b.getOnce path).run net now line = b.get net path line := rfl

/-- What comes of fetching a path. -/
inductive Fetched (path : String) (line : Line σ τ) : Outcome Json → Line σ τ → Prop where
  | accepted {answer : Outcome Json} {line' : Line σ τ} :
      b.get net path line = (answer, line') →
        (∀ message, answer ≠ .error (.transport (some 401) message)) →
          Fetched path line answer line'
  /-- The token is not accepted, and there is no fresh one. -/
  | notRefreshed {message : String} {fault : Fault} {line₁ line₂ : Line σ τ} :
      b.get net path line = (.error (.transport (some 401) message), line₁) →
        b.refresh.run net now line₁ = (.error fault, line₂) →
          Fetched path line (.error fault) line₂
  /-- The token is not accepted, and the GET is repeated with a fresh one. -/
  | repeated {message : String} {answer : Outcome Json} {line₁ line₂ line₃ : Line σ τ} :
      b.get net path line = (.error (.transport (some 401) message), line₁) →
        b.refresh.run net now line₁ = (.ok (), line₂) → b.get net path line₂ = (answer, line₃) →
          Fetched path line answer line₃

theorem isUnauthorized_iff {answer : Outcome Json} :
    isUnauthorized answer = true ↔ ∃ message, answer = .error (.transport (some 401) message) := by
  constructor
  · intro unauthorized
    unfold isUnauthorized at unauthorized
    split at unauthorized
    · exact ⟨_, rfl⟩
    · cases unauthorized
  · rintro ⟨message, rfl⟩
    rfl

variable {b net now}

theorem run_fetch_of_fetched {path : String} {line line' : Line σ τ} {answer : Outcome Json}
    (fetched : b.Fetched net now path line answer line') :
    (b.fetch path).run net now line = (answer, line') := by
  cases fetched with
  | accepted got accepted =>
      have authorized : ¬ isUnauthorized answer = true := by
        rw [isUnauthorized_iff]
        rintro ⟨message, same⟩
        exact accepted message same
      simp [fetch, run_getOnce, got, authorized]
  | notRefreshed got refreshed =>
      simp [fetch, run_getOnce, got, isUnauthorized, refreshed]
  | repeated got refreshed again =>
      simp [fetch, run_getOnce, got, isUnauthorized, refreshed, again]

theorem fetched_run (b : Backend σ) (net : Network τ) (now : Instant) (path : String)
    (line : Line σ τ) :
    b.Fetched net now path line ((b.fetch path).run net now line).1
      ((b.fetch path).run net now line).2 := by
  rcases got : b.get net path line with ⟨answer, line₁⟩
  -- Only an answer of 401 asks for new tokens, and it is asked again once at most.
  by_cases unauthorized : isUnauthorized answer = true
  · obtain ⟨message, rfl⟩ := isUnauthorized_iff.1 unauthorized
    rcases refreshed : b.refresh.run net now line₁ with ⟨fault | _, line₂⟩
    · have fetched := Fetched.notRefreshed got refreshed
      rw [run_fetch_of_fetched fetched]
      exact fetched
    · have fetched := Fetched.repeated got refreshed rfl
      rw [run_fetch_of_fetched fetched]
      exact fetched
  · have fetched : b.Fetched net now path line answer line₁ := by
      refine .accepted got ?_
      intro message same
      exact unauthorized (isUnauthorized_iff.2 ⟨message, same⟩)
    rw [run_fetch_of_fetched fetched]
    exact fetched

/-- The relation holds of exactly what a run of the fetch gives. -/
theorem fetched_iff {path : String} {line line' : Line σ τ} {answer : Outcome Json} :
    b.Fetched net now path line answer line' ↔
      (b.fetch path).run net now line = (answer, line') := by
  constructor
  · exact run_fetch_of_fetched
  · intro run
    have fetched := fetched_run b net now path line
    rw [run] at fetched
    exact fetched

/-! ## Checking -/

variable (b net now)

/-- The message that the results are read from: the answer of the results path if there is one, else
the status. -/
inductive ResultsMessage (h : Handle) (status : Json) (line : Line σ τ) :
    Outcome Json → Line σ τ → Prop where
  | status : b.resultsPath line.state h.job = none → ResultsMessage h status line (.ok status) line
  | separate {path : String} {answer : Outcome Json} {line' : Line σ τ} :
      b.resultsPath line.state h.job = some path → b.Fetched net now path line answer line' →
        ResultsMessage h status line answer line'

/-- The job is done, and the results message, or the fault in its place, has come. -/
inductive Collected (h : Handle) (line : Line σ τ) : Outcome Json → Line σ τ → Prop where
  | intro {status : Json} {answer : Outcome Json} {line₁ line₂ : Line σ τ} :
      b.Fetched net now h.statusPath line (.ok status) line₁ →
        b.isDone line₁.state status = .ok true →
          b.ResultsMessage net now h status line₁ answer line₂ → Collected h line answer line₂

/-- The ways out of a check. -/
inductive Finds (h : Handle) (line : Line σ τ) : Check → Prop where
  | noStatus {fault : Fault} {line₁ : Line σ τ} :
      b.Fetched net now h.statusPath line (.error fault) line₁ → Finds h line (.interrupted fault)
  /-- The status says that the job has failed, or cannot be read. -/
  | badStatus {status : Json} {fault : Fault} {line₁ : Line σ τ} :
      b.Fetched net now h.statusPath line (.ok status) line₁ →
        b.isDone line₁.state status = .error fault → Finds h line (.failed fault)
  | notDone {status : Json} {line₁ : Line σ τ} :
      b.Fetched net now h.statusPath line (.ok status) line₁ →
        b.isDone line₁.state status = .ok false →
          Finds h line (.pending (max (b.interval line₁.state status) (.ofMillis 10)))
  | noResults {fault : Fault} {line₂ : Line σ τ} :
      b.Collected net now h line (.error fault) line₂ → Finds h line (.interrupted fault)
  | badResults {m : Json} {fault : Fault} {line₂ : Line σ τ} :
      b.Collected net now h line (.ok m) line₂ → (b.results m h.job line₂.state).1 = .error fault →
        Finds h line (.failed fault)
  | results {m : Json} {result : SampleResult} {line₂ : Line σ τ} :
      b.Collected net now h line (.ok m) line₂ → (b.results m h.job line₂.state).1 = .ok result →
        Finds h line (.done (result.nameByKernels h.kernels))

variable {b net now} {h : Handle} {line line₁ line₂ : Line σ τ}

theorem run_check_of_noStatus {fault : Fault}
    (fetched : b.Fetched net now h.statusPath line (.error fault) line₁) :
    (b.check h).run net now line = (.interrupted fault, line₁) := by
  simp [check, fetched_iff.1 fetched]

theorem run_check_of_status {status : Json}
    (fetched : b.Fetched net now h.statusPath line (.ok status) line₁) :
    (b.check h).run net now line =
      match b.isDone line₁.state status with
      | .error fault => (.failed fault, line₁)
      | .ok true => (b.collect h status).run net now line₁
      | .ok false => (.pending (b.delay line₁.state status), line₁) := by
  simp only [check, Dialogue.run_bind, fetched_iff.1 fetched, Dialogue.run_state]
  rcases b.isDone line₁.state status with fault | _ | _ <;> rfl

/-- What a check finds once the results message, or the fault in its place, has come. -/
def conclusion (b : Backend σ) (h : Handle) (s : σ) : Outcome Json → Check
  | .error fault => .interrupted fault
  | .ok m =>
      match (b.results m h.job s).1 with
      | .error fault => .failed fault
      | .ok result => .done (result.nameByKernels h.kernels)

theorem run_readResults (m : Json) :
    ((b.readResults h m).run net now line).1 = b.conclusion h line.state (.ok m) := by
  simp only [readResults, Dialogue.run, conclusion]
  cases (b.results m h.job line.state).1 <;> rfl

theorem run_collect_of_message {status : Json} {answer : Outcome Json}
    (message : b.ResultsMessage net now h status line₁ answer line₂) :
    ((b.collect h status).run net now line₁).1 = b.conclusion h line₂.state answer := by
  cases message with
  | status none =>
      simp only [collect, Dialogue.run_bind, Dialogue.run_state, none]
      exact run_readResults status
  | separate some fetched =>
      simp only [collect, Dialogue.run_bind, Dialogue.run_state, some, fetched_iff.1 fetched]
      cases answer with
      | error fault => rfl
      | ok m => exact run_readResults m

theorem run_check_of_collected {answer : Outcome Json}
    (collected : b.Collected net now h line answer line₂) :
    ((b.check h).run net now line).1 = b.conclusion h line₂.state answer := by
  cases collected with
  | intro fetched isDone message =>
      rw [run_check_of_status fetched, isDone]
      exact run_collect_of_message message

/-- A results message, or the fault in its place, always comes. -/
theorem resultsMessage_total (b : Backend σ) (net : Network τ) (now : Instant) (h : Handle)
    (status : Json) (line₁ : Line σ τ) :
    ∃ answer line₂, b.ResultsMessage net now h status line₁ answer line₂ := by
  cases path : b.resultsPath line₁.state h.job with
  | none => exact ⟨_, _, .status path⟩
  | some path' => exact ⟨_, _, .separate path (fetched_run b net now path' line₁)⟩

theorem run_check_of_finds {c : Check} (finds : b.Finds net now h line c) :
    ((b.check h).run net now line).1 = c := by
  cases finds with
  | noStatus fetched => rw [run_check_of_noStatus fetched]
  | badStatus fetched isDone => rw [run_check_of_status fetched, isDone]
  | notDone fetched isDone =>
      rw [run_check_of_status fetched, isDone]
      rfl
  | noResults collected => rw [run_check_of_collected collected, conclusion]
  | badResults collected results => rw [run_check_of_collected collected, conclusion, results]
  | results collected results => rw [run_check_of_collected collected, conclusion, results]

/-- Every check takes one of the ways out. -/
theorem finds_total (b : Backend σ) (net : Network τ) (now : Instant) (h : Handle)
    (line : Line σ τ) : ∃ c, b.Finds net now h line c := by
  have fetched := fetched_run b net now h.statusPath line
  rcases run : (b.fetch h.statusPath).run net now line with ⟨fault | status, line₁⟩
  · rw [run] at fetched
    exact ⟨_, .noStatus fetched⟩
  · rw [run] at fetched
    rcases isDone : b.isDone line₁.state status with fault | _ | _
    · exact ⟨_, .badStatus fetched isDone⟩
    · exact ⟨_, .notDone fetched isDone⟩
    · obtain ⟨answer, line₂, message⟩ := resultsMessage_total b net now h status line₁
      have collected := Collected.intro fetched isDone message
      rcases answer with fault | m
      · exact ⟨_, .noResults collected⟩
      · cases results : (b.results m h.job line₂.state).1 with
        | error fault => exact ⟨_, .badResults collected results⟩
        | ok result => exact ⟨_, .results collected results⟩

/-- The relation holds of exactly what a run of the check gives. -/
theorem finds_iff {c : Check} :
    b.Finds net now h line c ↔ ((b.check h).run net now line).1 = c := by
  constructor
  · exact run_check_of_finds
  · rintro rfl
    obtain ⟨c, finds⟩ := finds_total b net now h line
    rw [run_check_of_finds finds]
    exact finds

/-! ## Polling -/

/-- A poll of a pending handle by its own backend answers with what the check finds. -/
theorem run_poll_of_pending (pending : h.outcome = none) (own : b.name line.state = h.backend) :
    ((b.poll h).run net now line).1 =
      (((b.check h).run net now line).1.poll, h.settle ((b.check h).run net now line).1) := by
  simp [poll, Handle.known?, pending, own]

/-- What is known without a check is answered at once. -/
theorem run_poll_of_known {told : Outcome SampleResult}
    (known : h.known? (b.name line.state) = some told) :
    (b.poll h).run net now line = ((told.map .done, h), line) := by
  simp [poll, known]

theorem phase_settle (pending : h.outcome = none) (c : Check) :
    (h.settle c).phase =
      match c with
      | .done _ => .done
      | .failed _ => .failed
      | _ => .polling := by
  cases c <;> simp [Handle.settle, Check.outcome?, Handle.resolve, Handle.phase, JobOutcome.phase,
    pending]

theorem failed_iff (pending : h.outcome = none) {c : Check} :
    (h.settle c).phase = .failed ↔ ∃ fault, c = .failed fault := by
  rw [phase_settle pending]
  cases c <;> simp

theorem done_iff (pending : h.outcome = none) {c : Check} :
    (h.settle c).phase = .done ↔ ∃ result, c = .done result := by
  rw [phase_settle pending]
  cases c <;> simp

theorem known?_eq_none {asked : String} :
    h.known? asked = none ↔ h.outcome = none ∧ asked = h.backend := by
  unfold Handle.known?
  cases h.outcome <;> simp

/-- A poll that makes a job done has read results from a message that came once the status said that
the job is done. -/
theorem collected_of_poll {h' : Handle} {answer : Outcome Poll}
    (polled : ((b.poll h).run net now line).1 = (answer, h')) (before : h.phase ≠ .done)
    (after : h'.phase = .done) :
    ∃ m line₂ result, b.Collected net now h line (.ok m) line₂ ∧
      (b.results m h.job line₂.state).1 = .ok result := by
  cases known : h.known? (b.name line.state) with
  | some told =>
      -- What can be answered without a check leaves the handle as it is.
      rw [run_poll_of_known known] at polled
      cases polled
      exact absurd after before
  | none =>
      obtain ⟨pending, own⟩ := known?_eq_none.1 known
      rw [run_poll_of_pending pending own] at polled
      cases polled
      obtain ⟨result, found⟩ := (done_iff pending).1 after
      cases finds_iff.2 found with
      | results collected results => exact ⟨_, _, _, collected, results⟩

/-- A poll of a pending handle by its own backend makes the job failed exactly if the status that
came says so or cannot be read, or if the job is done and the results message that came cannot be
read; it makes the job done exactly if the job is done and the results message could be read.
Otherwise the handle stays as it is: a fault in the place of either message is answered as it is,
and an unfinished job is pending for the time that the backend asks for, but ten milliseconds at
least. -/
theorem poll_of_pending (b : Backend σ) (net : Network τ) (now : Instant) {h h' : Handle}
    {line : Line σ τ} {answer : Outcome Poll} (pending : h.outcome = none)
    (own : b.name line.state = h.backend)
    (polled : ((b.poll h).run net now line).1 = (answer, h')) :
    (h'.phase = .failed ↔
        (∃ status line₁ fault, b.Fetched net now h.statusPath line (.ok status) line₁ ∧
          b.isDone line₁.state status = .error fault) ∨
        ∃ m line₂ fault, b.Collected net now h line (.ok m) line₂ ∧
          (b.results m h.job line₂.state).1 = .error fault) ∧
      (h'.phase = .done ↔
        ∃ m line₂ result, b.Collected net now h line (.ok m) line₂ ∧
          (b.results m h.job line₂.state).1 = .ok result) ∧
      (h'.phase ≠ .failed → h'.phase ≠ .done → h' = h) ∧
      (∀ fault line', b.Fetched net now h.statusPath line (.error fault) line' ∨
        b.Collected net now h line (.error fault) line' → answer = .error fault ∧ h' = h) ∧
      ∀ status line₁, b.Fetched net now h.statusPath line (.ok status) line₁ →
        b.isDone line₁.state status = .ok false →
          answer = .ok (.pending (max (b.interval line₁.state status) (.ofMillis 10))) ∧
            h' = h := by
  obtain ⟨c, finds⟩ := finds_total b net now h line
  -- Any way out that the check takes is the one that it took.
  have only : ∀ {c' : Check}, b.Finds net now h line c' → c = c' := by
    intro c' other
    rw [← finds_iff.1 finds, finds_iff.1 other]
  rw [run_poll_of_pending pending own, finds_iff.1 finds] at polled
  cases polled
  refine ⟨?_, ?_, ?_, ?_, ?_⟩
  · rw [failed_iff pending]
    constructor
    · rintro ⟨fault, rfl⟩
      cases finds with
      | badStatus fetched isDone => exact .inl ⟨_, _, fault, fetched, isDone⟩
      | badResults collected results => exact .inr ⟨_, _, fault, collected, results⟩
    · rintro (⟨status, line₁, fault, fetched, isDone⟩ | ⟨m, line₂, fault, collected, results⟩)
      · exact ⟨fault, only (.badStatus fetched isDone)⟩
      · exact ⟨fault, only (.badResults collected results)⟩
  · rw [done_iff pending]
    constructor
    · rintro ⟨result, rfl⟩
      cases finds with
      | results collected results => exact ⟨_, _, _, collected, results⟩
    · rintro ⟨m, line₂, result, collected, results⟩
      exact ⟨_, only (.results collected results)⟩
  · intro notFailed notDone
    rw [Ne, failed_iff pending] at notFailed
    rw [Ne, done_iff pending] at notDone
    cases c with
    | pending _ => exact Handle.settle_of_outcome?_none rfl
    | interrupted _ => exact Handle.settle_of_outcome?_none rfl
    | done result => exact absurd ⟨result, rfl⟩ notDone
    | failed fault => exact absurd ⟨fault, rfl⟩ notFailed
  · rintro fault line' (fetched | collected)
    · rw [only (.noStatus fetched)]
      exact ⟨rfl, Handle.settle_of_outcome?_none rfl⟩
    · rw [only (.noResults collected)]
      exact ⟨rfl, Handle.settle_of_outcome?_none rfl⟩
  · intro status line₁ fetched isDone
    rw [only (.notDone fetched isDone)]
    exact ⟨rfl, Handle.settle_of_outcome?_none rfl⟩

/-- A network that answers every request with null. -/
def nullNetwork : Network Unit := ⟨fun _ s => (.ok .null, s)⟩

/-- A job of the plain backend that is still pending. -/
def pendingJob : Handle where
  backend := "plain"
  job := "j-1"
  statusPath := "/jobs/j-1"
  config := Dict.empty
  kernels := ["bell"]
  initialDelay := minInterval
  submittedAt := ⟨0, 0, 0⟩
  outcome := none

/-- A status of null cannot be read. -/
theorem nullNetwork_fails_pendingJob :
    ((Plain.backend.poll pendingJob).run nullNetwork ⟨0, 0, 0⟩
      ⟨Plain.Session.fresh "plain", (), []⟩).1.2.phase = .failed := by
  refine (poll_of_pending Plain.backend nullNetwork ⟨0, 0, 0⟩ (h := pendingJob) rfl rfl rfl).1.2 ?_
  refine .inl ⟨.null, _, _, .accepted rfl ?_, rfl⟩
  intro message same
  cases same

end Backend
end QuantumJobs

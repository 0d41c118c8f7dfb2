import QuantumJobs.Proofs.FinishedJobs
import QuantumJobs.Proofs.RetoldFaults
import QuantumJobs.Proofs.StatusVerdict
import QuantumJobs.Proofs.WaitSteps

/-!
# LastingFailures — the fault that ends a job is the one that is told ever after

Only the call that ends a job has the fault itself; everybody after it is told the fault that the
stored snapshot stands for.  With the emulator both are the same: a job that fails has failed by the
emulator's own word, or on a message that cannot be read, and of such faults a snapshot keeps
everything.  The record of the handle does not, since a response of null is left out, but what is
left out is told all the same.
-/

namespace QuantumJobs

variable {σ τ : Type}

/-! ## Handles of failed jobs -/

namespace Handle

/-- Whoever polls the handle or waits for it, with any backend and any network, is answered with a
fault at once: nothing is sent, and the handle stays as it is. -/
structure Answers (h : Handle) (fault : Fault) : Prop where
  poll : ∀ {σ τ : Type} (b : Backend σ) (net : Network τ) (now : Instant) (line : Line σ τ),
    (b.poll h).run net now line = ((.error fault, h), line)
  wait : ∀ {σ τ : Type} (b : Backend σ) (net : Network τ) (now : Instant) (rounds : Nat)
    (line : Line σ τ), Wait.run b net now rounds h line = (some (.error fault), ⟨.zero, h, line⟩)
  waitUntil : ∀ {σ τ : Type} (b : Backend σ) (net : Network τ) (now : Instant) (patience : Span)
    (line : Line σ τ),
      Wait.runUntil b net now patience h line = (some (.error fault), ⟨.zero, h, line⟩)

/-- What can become of a handle: it is polled and waited for, with any backends and networks, and it
is recorded and its record is read back. -/
inductive Later (h : Handle) : Handle → Prop where
  | same : Later h h
  | polled {σ τ : Type} {g : Handle} (b : Backend σ) (net : Network τ) (now : Instant)
      (line : Line σ τ) : Later h g → Later h ((b.poll g).run net now line).1.2
  | waited {σ τ : Type} {g : Handle} (b : Backend σ) (net : Network τ) (now : Instant)
      (rounds : Nat) (line : Line σ τ) :
      Later h g → Later h (Wait.run b net now rounds g line).2.handle
  | waitedUntil {σ τ : Type} {g : Handle} (b : Backend σ) (net : Network τ) (now : Instant)
      (patience : Span) (line : Line σ τ) :
      Later h g → Later h (Wait.runUntil b net now patience g line).2.handle
  | reloaded {g g' : Handle} : Later h g → ofJson g.toJson = .ok g' → Later h g'

/-- The job has failed, and what is stored stands for the fault. -/
structure FailedWith (h : Handle) (fault : Fault) : Prop where
  fits : h.Fits
  stored : ∃ failure, h.outcome = some (.failed failure) ∧ failure.toFault = fault

variable {h g : Handle} {fault : Fault}

theorem FailedWith.known? (failed : h.FailedWith fault) (asked : String) :
    h.known? asked = some (.error fault) := by
  obtain ⟨failure, outcome, rfl⟩ := failed.stored
  unfold Handle.known?
  rw [outcome]
  rfl

theorem FailedWith.answers (failed : h.FailedWith fault) : h.Answers fault where
  poll := by
    intro σ τ b net now line
    exact Backend.run_poll_of_known (failed.known? _)
  wait := by
    intro σ τ b net now rounds line
    unfold Wait.run
    simp only [failed.known?]
  waitUntil := by
    intro σ τ b net now patience line
    unfold Wait.runUntil
    simp only [failed.known?]

/-- A record may leave out a response of null, which is told all the same. -/
theorem FailedWith.restored (failed : h.FailedWith fault) : h.restored.FailedWith fault := by
  obtain ⟨failure, outcome, rfl⟩ := failed.stored
  have kept := Handle.outcome_restored_of_failed outcome
  -- Nothing is added to what was stored, so it still fits.
  obtain ⟨code, response⟩ : failure.Fits := failed.fits.outcome _ outcome
  refine ⟨⟨failed.fits.submittedAt, ?_⟩, failure.restored, kept, failure.toFault_restored⟩
  intro o here
  rw [kept] at here
  cases here
  refine ⟨code, ?_⟩
  intro v here
  exact response v (Option.filter_eq_some_iff.1 here).1

/-- Nothing that becomes of a failed job's handle changes the fault that it is answered with. -/
theorem FailedWith.later (failed : h.FailedWith fault) (later : h.Later g) :
    g.FailedWith fault := by
  -- Polls and waits give back the handle that they were given; only a record may differ from it.
  induction later with
  | same => exact failed
  | polled b net now line _ ih =>
      rw [ih.answers.poll b net now line]
      exact ih
  | waited b net now rounds line _ ih =>
      rw [ih.answers.wait b net now rounds line]
      exact ih
  | waitedUntil b net now patience line _ ih =>
      rw [ih.answers.waitUntil b net now patience line]
      exact ih
  | reloaded _ read ih =>
      rw [ofJson_toJson ih.fits] at read
      cases read
      exact ih.restored

end Handle

/-! ## Polls that end in failure -/

/-- A poll that makes a job failed has made a check that found the fault which it answers. -/
theorem Backend.failed_of_poll {b : Backend σ} {net : Network τ} {now : Instant} {h h' : Handle}
    {line : Line σ τ} {answer : Outcome Poll}
    (polled : ((b.poll h).run net now line).1 = (answer, h')) (before : h.phase ≠ .failed)
    (after : h'.phase = .failed) :
    ∃ fault, b.Finds net now h line (.failed fault) ∧ answer = .error fault ∧
      h.outcome = none ∧ h' = h.settle (.failed fault) := by
  cases known : h.known? (b.name line.state) with
  | some told =>
      -- What can be answered without a check leaves the handle as it is.
      rw [run_poll_of_known known] at polled
      cases polled
      exact absurd after before
  | none =>
      obtain ⟨pending, own⟩ := known?_eq_none.1 known
      rw [run_poll_of_pending pending own] at polled
      cases polled
      obtain ⟨fault, found⟩ := (failed_iff pending).1 after
      exact ⟨fault, finds_iff.2 found, congrArg Check.poll found, pending, congrArg h.settle found⟩

namespace Fermioniq

/-! ## Faults of the emulator's jobs -/

/-- What may be found at fault on a message: the job, by the emulator's own word, or the message
itself, which is kept whole. -/
inductive FoundOn (m : Json) : Fault → Prop where
  | jobFailed {code? : Option Int} {reason : String} :
      (∀ code, code? = some code → Json.minSigned ≤ code ∧ code ≤ Json.maxSigned) →
        FoundOn m (.jobFailed code? reason)
  | malformedResponse {reason : String} : FoundOn m (.malformedResponse reason m)

variable {m : Json} {fault : Fault}

theorem FoundOn.fits (found : FoundOn m fault) (mFits : m.Fits) : fault.Fits := by
  cases found with
  | jobFailed inRange => exact inRange
  | malformedResponse => exact mFits

theorem FoundOn.kept (found : FoundOn m fault) : fault.Kept := by
  cases found with
  | jobFailed _ => exact .jobFailed _ _
  | malformedResponse => exact .malformedResponse _ _

theorem FoundOn.kind (found : FoundOn m fault) :
    (Failure.ofFault fault).kind = .jobExecution ∨
      (Failure.ofFault fault).kind = .malformedResponse := by
  cases found with
  | jobFailed _ => exact .inl rfl
  | malformedResponse => exact .inr rfl

/-- A message that is read for a type is at fault if it cannot be. -/
theorem foundOn_reading {α : Type} {decode : Json.Decoder α} {what : String}
    (failed : Status.reading decode what m = .error fault) : FoundOn m fault := by
  unfold Status.reading at failed
  cases read : decode m with
  | ok a =>
      rw [read] at failed
      cases failed
  | error mismatch =>
      rw [read] at failed
      cases failed
      exact .malformedResponse

theorem foundOn_isDone {s : Status}
    (inRange : ∀ code, s.code = some code → Json.minSigned ≤ code ∧ code ≤ Json.maxSigned)
    (failed : s.isDone m = .error fault) : FoundOn m fault := by
  unfold Status.isDone at failed
  by_cases finished : s.status = "finished"
  · rw [if_pos finished] at failed
    cases code : s.code with
    | none =>
        rw [code] at failed
        cases failed
        exact .malformedResponse
    | some n =>
        by_cases zero : n = 0
        · simp [code, zero] at failed
        · simp only [code, if_neg zero] at failed
          cases failed
          exact .jobFailed (code ▸ inRange)
  · rw [if_neg finished] at failed
    cases error : s.errorText with
    | none =>
        rw [error] at failed
        cases failed
    | some text =>
        rw [error] at failed
        cases failed
        exact .jobFailed inRange

theorem foundOn_isDoneMessage (failed : Status.isDoneMessage m = .error fault) :
    FoundOn m fault := by
  cases read : Status.decode m with
  | error mismatch =>
      rw [Status.isDoneMessage_of_mismatch read] at failed
      cases failed
      exact .malformedResponse
  | ok s =>
      rw [Status.isDoneMessage_of_decode read] at failed
      exact foundOn_isDone (Status.inRange_of_decode read) failed

theorem foundOn_ofMessage (failed : Results.ofMessage m = .error fault) : FoundOn m fault := by
  unfold Results.ofMessage at failed
  cases read : Status.reading Results.decode "job results" m with
  | error other =>
      rw [read] at failed
      cases failed
      exact foundOn_reading read
  | ok entries =>
      rw [read] at failed
      simp only [Bind.bind, Except.bind] at failed
      -- The results can be read, so there are none.
      by_cases empty : entries.isEmpty = true
      · rw [if_pos empty] at failed
        cases failed
        exact .malformedResponse
      · rw [if_neg empty] at failed
        cases failed

/-- A check ends in failure on one of the messages that came. -/
theorem foundOn_of_finds {net : Network τ} {now : Instant} {h : Handle} {line : Line Session τ}
    (netFits : net.Fits) (finds : backend.Finds net now h line (.failed fault)) :
    ∃ m, m.Fits ∧ FoundOn m fault := by
  cases finds with
  | badStatus fetched isDone =>
      exact ⟨_, Backend.fits_of_fetched netFits fetched, foundOn_isDoneMessage isDone⟩
  | badResults collected results =>
      exact ⟨_, Backend.fits_of_collected netFits collected, foundOn_ofMessage results⟩

/-- Whatever the network answers: if a poll makes a job failed, what is stored is that the emulator
reported the job as failed, or that its message was malformed.  And the fault that the poll answers
is the one that every later poll and every later wait is answered with at once, whatever has become
of the handle meanwhile: any polls and waits, and any number of times that it was recorded and read
back, which always succeeds. -/
theorem told_ever_after {net : Network τ} {now : Instant} {h h' : Handle} {line : Line Session τ}
    {answer : Outcome Poll} (netFits : net.Fits) (fits : h.Fits)
    (polled : ((backend.poll h).run net now line).1 = (answer, h')) (before : h.phase ≠ .failed)
    (after : h'.phase = .failed) :
    ∃ fault failure, answer = .error fault ∧ h'.outcome = some (.failed failure) ∧
      (failure.kind = .jobExecution ∨ failure.kind = .malformedResponse) ∧
      ∀ g, h'.Later g → g.Answers fault ∧ ∃ g', Handle.ofJson g.toJson = .ok g' := by
  obtain ⟨fault, finds, rfl, pending, rfl⟩ := Backend.failed_of_poll polled before after
  obtain ⟨m, mFits, found⟩ := foundOn_of_finds netFits finds
  have outcome : (h.settle (.failed fault)).outcome = some (.failed (.ofFault fault)) :=
    Handle.outcome_settle pending _
  have faultFits := found.fits mFits
  have settled : (h.settle (.failed fault)).Fits := by
    apply fits.settle
    rintro o ⟨⟩
    exact Failure.fits_ofFault faultFits
  have failed : (h.settle (.failed fault)).FailedWith fault :=
    ⟨settled, _, outcome, Fault.retold_of_kept faultFits found.kept⟩
  -- From here on nothing is asked of the emulator: the handle alone decides.
  refine ⟨fault, _, rfl, outcome, found.kind, ?_⟩
  intro g later
  have still := failed.later later
  exact ⟨still.answers, _, Handle.ofJson_toJson still.fits⟩

theorem fits_answering_null : (answering .null .null).Fits := by
  intro r wire m answered
  obtain rfl : Json.null = m := by simpa [answering] using answered
  exact ⟨rfl, rfl⟩

theorem fits_pendingJob : pendingJob.Fits where
  submittedAt := by
    show (⟨0, 0, 0⟩ : Instant).Valid
    decide
  outcome := by
    intro o settled
    cases settled

/-- A job fails on a response of null, which its record leaves out: read back twice, it is answered
with the fault that the poll answered. -/
theorem null_told_ever_after :
    (answering .null .null).Fits ∧ pendingJob.Fits ∧ pendingJob.phase ≠ .failed ∧
      (pollAnswered .null .null).2.phase = .failed ∧ (pollAnswered .null .null).2.KeepsNull ∧
      ∃ fault g g', (pollAnswered .null .null).1 = .error fault ∧
        Handle.ofJson (pollAnswered .null .null).2.toJson = .ok g ∧
        Handle.ofJson g.toJson = .ok g' ∧ g'.Answers fault := by
  have unfailed : pendingJob.phase ≠ .failed := by decide
  obtain ⟨fault, _, answer, _, _, told⟩ := told_ever_after fits_answering_null fits_pendingJob
    (rfl : pollAnswered .null .null = (_, (pollAnswered .null .null).2)) unfailed rfl
  obtain ⟨_, g, read⟩ := told _ .same
  obtain ⟨_, g', read'⟩ := told g (.reloaded .same read)
  obtain ⟨answers, _⟩ := told g' (.reloaded (.reloaded .same read) read')
  exact ⟨fits_answering_null, fits_pendingJob, unfailed, rfl, ⟨_, rfl, rfl⟩, fault, g, g', answer,
    read, read', answers⟩

end Fermioniq
end QuantumJobs

import QuantumJobs.Submission

/-!
# Polling — status checks and waiting for the end of a job

A status check fetches the status and, if the job is done, the results.  It ends the job, finds it
unfinished, or is interrupted by the network, which leaves the job as it was.  Polling checks once;
waiting rests between checks until the job has ended or a check is interrupted.
-/

namespace QuantumJobs

variable {σ τ : Type}

/-! ## Status checks -/

/-- What a status check finds. -/
inductive Check
  /-- The job is not finished; the next check is due after the given time. -/
  | pending (next : Span)
  | done (result : SampleResult)
  /-- The backend says that the job has failed, or its messages cannot be read. -/
  | failed (fault : Fault)
  /-- The messages could not be fetched. -/
  | interrupted (fault : Fault)
  deriving Inhabited

namespace Check

/-- The outcome that a check settles the job with, if it ends the job. -/
def outcome? : Check → Option JobOutcome
  | .done result => some (.done result)
  | .failed fault => some (.failed (.ofFault fault))
  | _ => none

end Check

/-- The handle after a check. -/
def Handle.settle (h : Handle) (c : Check) : Handle :=
  match c.outcome? with
  | some o => h.resolve o
  | none => h

/-- A check that does not end the job leaves the handle as it is. -/
theorem Handle.settle_of_outcome?_none {h : Handle} {c : Check} (goesOn : c.outcome? = none) :
    h.settle c = h := by
  unfold Handle.settle
  rw [goesOn]

namespace Backend

/-- Whether an answer says that the token is not accepted. -/
def isUnauthorized : Outcome Json → Bool
  | .error (.transport (some 401) _) => true
  | _ => false

/-- A GET with the current headers. -/
def getOnce (b : Backend σ) (path : String) : Dialogue σ (Outcome Json) := do
  let s ← Dialogue.state
  Dialogue.request (.get (b.baseUrl s) path (b.headers s))

/-- A GET that is repeated once with fresh headers if the token is not accepted. -/
def fetch (b : Backend σ) (path : String) : Dialogue σ (Outcome Json) := do
  let answer ← b.getOnce path
  if isUnauthorized answer then
    match ← b.refresh with
    | .error fault => return .error fault
    | .ok () => b.getOnce path
  else return answer

/-- Reads the results of a handle's job from a message. -/
def readResults (b : Backend σ) (h : Handle) (m : Json) : Dialogue σ Check :=
  .change (fun s => (b.results m h.job s).2) fun s =>
    match (b.results m h.job s).1 with
    | .ok result => .done (.done (result.nameByKernels h.kernels))
    | .error fault => .done (.failed fault)

/-- Goes on from the status of a job that is done. -/
def collect (b : Backend σ) (h : Handle) (status : Json) : Dialogue σ Check := do
  match b.resultsPath (← Dialogue.state) h.job with
  | none => b.readResults h status
  | some path =>
      match ← b.fetch path with
      | .error fault => return .interrupted fault
      | .ok m => b.readResults h m

/-- One status check. -/
def check (b : Backend σ) (h : Handle) : Dialogue σ Check := do
  match ← b.fetch h.statusPath with
  | .error fault => return .interrupted fault
  | .ok status =>
      let s ← Dialogue.state
      match b.isDone s status with
      | .error fault => return .failed fault
      | .ok true => b.collect h status
      | .ok false => return .pending (b.delay s status)

end Backend

/-! ## Polling -/

/-- What one poll answers. -/
inductive Poll
  | pending (next : Span)
  | done (result : SampleResult)
  deriving DecidableEq, Inhabited

/-- The answer of a poll that made a check. -/
def Check.poll : Check → Outcome Poll
  | .pending next => .ok (.pending next)
  | .done result => .ok (.done result)
  | .failed fault => .error fault
  | .interrupted fault => .error fault

/-- The fault of using a handle with a backend that does not own its job. -/
def Handle.foreign (h : Handle) (asked : String) : Fault :=
  .invalidState ("job '" ++ h.job ++ "' belongs to backend '" ++ h.backend ++ "', not '" ++ asked
    ++ "'")

/-- What can be answered without a check: the outcome, or that the backend is the wrong one. -/
def Handle.known? (h : Handle) (asked : String) : Option (Outcome SampleResult) :=
  match h.outcome with
  | some o => some o.answer
  | none => if asked = h.backend then none else some (.error (h.foreign asked))

namespace Backend

/-- Makes exactly one status check, or none if the job has ended. -/
def poll (b : Backend σ) (h : Handle) : Dialogue σ (Outcome Poll × Handle) := do
  match h.known? (b.name (← Dialogue.state)) with
  | some answer => return (answer.map .done, h)
  | none =>
      let c ← b.check h
      return (c.poll, h.settle c)

end Backend

/-! ## Waiting -/

/-- Where a wait stands: the time that has passed, the handle and the line to the network. -/
structure Wait (σ τ : Type) where
  elapsed : Span
  handle : Handle
  line : Line σ τ
  deriving Inhabited

namespace Wait

/-- Rests for a time and makes a check. -/
def round (b : Backend σ) (net : Network τ) (now : Instant) (delay : Span) (w : Wait σ τ) :
    Check × Wait σ τ :=
  let (c, line) := (b.check w.handle).run net now w.line
  (c, ⟨w.elapsed + delay.asRest, w.handle.settle c, line⟩)

/-- The answer with which a check ends a wait. -/
def verdict : Check → Option (Outcome SampleResult)
  | .pending _ => none
  | .done result => some (.ok result)
  | .failed fault => some (.error fault)
  | .interrupted fault => some (.error fault)

/-- Rests and checks until a check ends the wait; empty if `rounds` checks do not. -/
def loop (b : Backend σ) (net : Network τ) (now : Instant) :
    Nat → Span → Wait σ τ → Option (Outcome SampleResult) × Wait σ τ
  | 0, _, w => (none, w)
  | rounds + 1, delay, w =>
      match round b net now delay w with
      | (.pending next, w) => loop b net now rounds next w
      | (c, w) => (verdict c, w)

/-- Waits for the end of a job for at most `rounds` status checks. -/
def run (b : Backend σ) (net : Network τ) (now : Instant) (rounds : Nat) (h : Handle)
    (line : Line σ τ) : Option (Outcome SampleResult) × Wait σ τ :=
  let w : Wait σ τ := ⟨.zero, h, line⟩
  match h.known? (b.name line.state) with
  | some answer => (some answer, w)
  | none => loop b net now rounds h.initialDelay w

/-- The number of checks that fit before a deadline: one at once, and one more for each least
interval. -/
def roundsWithin (deadline : Span) : Nat :=
  deadline.nanos / minInterval.nanos + 2

/-- Rests and checks as `loop` does, and gives up at the deadline.  A check that is due at the
deadline is still made. -/
def loopUntil (b : Backend σ) (net : Network τ) (now : Instant) (deadline : Span) :
    Nat → Span → Wait σ τ → Option (Outcome SampleResult) × Wait σ τ
  | 0, _, w => (none, { w with elapsed := deadline })
  | rounds + 1, delay, w =>
      if w.elapsed + delay.asRest ≤ deadline then
        match round b net now delay w with
        | (.pending next, w) => loopUntil b net now deadline rounds next w
        | (c, w) => (verdict c, w)
      else (none, { w with elapsed := deadline })

/-- Waits for the end of a job until a timer for the given time goes off; empty if that comes
first. -/
def runUntil (b : Backend σ) (net : Network τ) (now : Instant) (patience : Span) (h : Handle)
    (line : Line σ τ) : Option (Outcome SampleResult) × Wait σ τ :=
  let w : Wait σ τ := ⟨.zero, h, line⟩
  let deadline := patience.wholeMillis
  match h.known? (b.name line.state) with
  | some answer => (some answer, w)
  | none => loopUntil b net now deadline (roundsWithin deadline) h.initialDelay w

end Wait
end QuantumJobs

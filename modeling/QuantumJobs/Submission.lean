import QuantumJobs.Backend.Basic
import QuantumJobs.Handle.Basic

/-!
# Submission — handing a job to a backend

A submission is one POST that carries all kernels.  If the backend accepts it, the answer names the
job, and a handle with an empty outcome is made.  No status check belongs to it.
-/

namespace QuantumJobs

variable {σ : Type}

/-- The least time between two status checks. -/
def minInterval : Span := .ofMillis 10

/-- How long to wait after a message, never less than `minInterval`. -/
def Backend.delay (b : Backend σ) (s : σ) (m : Json) : Span :=
  max (b.interval s m) minInterval

def noKernels : Fault := .invalidState "no kernel executions to submit"

namespace Backend

/-- The handle of a job that was just accepted. -/
def accept (b : Backend σ) (s : σ) (kernels : List Kernel) (response : Json) (now : Instant) :
    Outcome Handle := do
  let job ← b.jobOf s response
  .ok {
    backend := b.name s
    job
    statusPath := b.statusPath s job
    config := b.persisted s
    kernels := kernels.map (·.name)
    initialDelay := b.delay s response
    submittedAt := now
    outcome := none }

/-- Submits all kernels as one job. -/
def submit (b : Backend σ) (kernels : List Kernel) : Dialogue σ (Outcome Handle) :=
  if kernels.isEmpty then .done (.error noKernels)
  else do
    let s ← Dialogue.state
    match b.payload s kernels with
    | .error fault => return .error fault
    | .ok p =>
        match ← Dialogue.request (.post (b.baseUrl s) p.path p.headers p.body) with
        | .error fault => return .error fault
        | .ok response => return b.accept (← Dialogue.state) kernels response (← Dialogue.now)

end Backend
end QuantumJobs

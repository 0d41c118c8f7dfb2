import QuantumJobs.Config
import QuantumJobs.JobOutcome
import QuantumJobs.Span

/-!
# Handle — a submitted job

A handle holds all that another process needs to go on polling a job: the backend and its
configuration, the job's identifier and status path, and the delay before the first status check.
Its outcome is empty until the job ends and is written once.
-/

namespace QuantumJobs

structure Handle where
  backend : String
  job : String
  statusPath : String
  config : Config
  /-- The names of the submitted kernels, in order. -/
  kernels : List String
  initialDelay : Span
  submittedAt : Instant
  outcome : Option JobOutcome
  deriving BEq, Inhabited

namespace Handle

def phase (h : Handle) : Phase :=
  match h.outcome with
  | some o => o.phase
  | none => .polling

def isResolved (h : Handle) : Bool := h.outcome.isSome

def result? (h : Handle) : Option SampleResult :=
  match h.outcome with
  | some (.done r) => some r
  | _ => none

def failure? (h : Handle) : Option Failure :=
  match h.outcome with
  | some (.failed f) => some f
  | _ => none

/-- Writes the outcome, unless one is written already. -/
def resolve (h : Handle) (o : JobOutcome) : Handle :=
  match h.outcome with
  | some _ => h
  | none => { h with outcome := some o }

theorem isResolved_resolve (h : Handle) (o : JobOutcome) : (h.resolve o).isResolved = true := by
  unfold resolve isResolved
  cases ho : h.outcome with
  | some _ => simp [ho]
  | none => rfl

end Handle
end QuantumJobs

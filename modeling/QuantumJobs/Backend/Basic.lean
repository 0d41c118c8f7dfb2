import QuantumJobs.Config
import QuantumJobs.Dialogue
import QuantumJobs.Job
import QuantumJobs.SampleResult
import QuantumJobs.Span

/-!
# Backend — what a client has to know about a vendor

A backend says how to log in, how to phrase a submission, and how to read the vendor's answers.  It
works on a state of its own, which holds settings and tokens.  The client does all submission and
polling; a backend sends requests only to log in.
-/

namespace QuantumJobs

/-- A submission as a backend phrases it. -/
structure Payload where
  path : String
  headers : Headers
  body : Json
  deriving Inhabited

structure Backend (σ : Type) where
  /-- The name that handles record as the job's owner. -/
  name : σ → String
  baseUrl : σ → String
  /-- The headers for the current settings and token. -/
  headers : σ → Headers
  /-- The user that the current token was issued to. -/
  user : σ → Option String
  /-- The part of the configuration that handles keep; it holds no secret. -/
  persisted : σ → Config
  /-- Takes a configuration into use. -/
  connect : Environment → Config → Dialogue σ (Outcome Unit)
  /-- Exchanges the credentials for a fresh token. -/
  refresh : Dialogue σ (Outcome Unit)
  payload : σ → List Kernel → Outcome Payload
  /-- The job's identifier in the answer to a submission. -/
  jobOf : σ → Json → Outcome String
  statusPath : σ → String → String
  /-- The path of the results, where they are not part of the status. -/
  resultsPath : σ → String → Option String
  /-- Whether a status says that the job has succeeded; a fault if it says that it has failed. -/
  isDone : σ → Json → Outcome Bool
  /-- Reads the results of a job from a message. -/
  results : Json → String → σ → Outcome SampleResult × σ
  /-- How long to wait after an answer before the next status check. -/
  interval : σ → Json → Span

namespace Backend

variable {σ τ : Type}

/-- The status path that follows from the answer to a submission. -/
def statusPathOf (b : Backend σ) (s : σ) (response : Json) : Outcome String :=
  (b.jobOf s response).map (b.statusPath s)

/-- The same backend on a part of a larger state. -/
def within (get : τ → σ) (put : σ → τ → τ) (b : Backend σ) : Backend τ where
  name t := b.name (get t)
  baseUrl t := b.baseUrl (get t)
  headers t := b.headers (get t)
  user t := b.user (get t)
  persisted t := b.persisted (get t)
  connect env c := (b.connect env c).within get put
  refresh := b.refresh.within get put
  payload t := b.payload (get t)
  jobOf t := b.jobOf (get t)
  statusPath t := b.statusPath (get t)
  resultsPath t := b.resultsPath (get t)
  isDone t := b.isDone (get t)
  results response job t :=
    let (result, s) := b.results response job (get t)
    (result, put s t)
  interval t := b.interval (get t)

end Backend
end QuantumJobs

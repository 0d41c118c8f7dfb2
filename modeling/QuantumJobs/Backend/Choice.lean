import QuantumJobs.Backend.Basic

/-!
# Choice — one of two backends

Where backends of two kinds are in use, a session is one of either kind, and each operation is that
of the kind that the session has.
-/

namespace QuantumJobs

variable {σ τ : Type}

namespace Backend

/-- The left part of a choice. -/
def leftOf [Inhabited σ] : σ ⊕ τ → σ
  | .inl s => s
  | .inr _ => default

/-- The right part of a choice. -/
def rightOf [Inhabited τ] : σ ⊕ τ → τ
  | .inl _ => default
  | .inr t => t

/-- A dialogue on whichever part the session has. -/
def onPart {α : Type} [Inhabited σ] [Inhabited τ] (a : Dialogue σ α) (b : Dialogue τ α) :
    Dialogue (σ ⊕ τ) α :=
  .change id fun
    | .inl _ => a.within leftOf fun s _ => .inl s
    | .inr _ => b.within rightOf fun t _ => .inr t

/-- The backend that works on sessions of both kinds. -/
def choice [Inhabited σ] [Inhabited τ] (a : Backend σ) (b : Backend τ) : Backend (σ ⊕ τ) where
  name := Sum.elim a.name b.name
  baseUrl := Sum.elim a.baseUrl b.baseUrl
  headers := Sum.elim a.headers b.headers
  user := Sum.elim a.user b.user
  persisted := Sum.elim a.persisted b.persisted
  connect env c := onPart (a.connect env c) (b.connect env c)
  refresh := onPart a.refresh b.refresh
  payload := Sum.elim a.payload b.payload
  jobOf := Sum.elim a.jobOf b.jobOf
  statusPath := Sum.elim a.statusPath b.statusPath
  resultsPath := Sum.elim a.resultsPath b.resultsPath
  isDone := Sum.elim a.isDone b.isDone
  results response job
    | .inl s => let (r, s) := a.results response job s; (r, .inl s)
    | .inr t => let (r, t) := b.results response job t; (r, .inr t)
  interval := Sum.elim a.interval b.interval

end Backend
end QuantumJobs

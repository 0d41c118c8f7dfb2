import QuantumJobs.Fault
import QuantumJobs.Request

/-!
# Dialogue — what a client does between its requests

A dialogue is a finite course of steps: it reads and changes a state of its own, asks for the time,
sends requests and goes on with their answers, and ends with a value.  What a dialogue does is thus
fixed for every network; run against one, it gives its value, the requests sent and the new states.
-/

namespace QuantumJobs

/-- What answers requests: the answer may depend on the network's state and changes it. -/
structure Network (τ : Type) where
  answer : Request → τ → Outcome Json × τ

/-- Where a run stands: the dialogue's state, the network's state and the requests sent so far. -/
structure Line (σ τ : Type) where
  state : σ
  wire : τ
  sent : List Request
  deriving Inhabited

inductive Dialogue (σ α : Type) : Type
  | done (a : α)
  /-- Changes the state and goes on with the state before the change. -/
  | change (f : σ → σ) (next : σ → Dialogue σ α)
  | clock (next : Instant → Dialogue σ α)
  | send (r : Request) (next : Outcome Json → Dialogue σ α)

namespace Dialogue

variable {σ τ α β : Type}

def bind : Dialogue σ α → (α → Dialogue σ β) → Dialogue σ β
  | .done a, k => k a
  | .change f next, k => .change f fun s => (next s).bind k
  | .clock next, k => .clock fun t => (next t).bind k
  | .send r next, k => .send r fun answer => (next answer).bind k

instance : Monad (Dialogue σ) where
  pure := .done
  bind := .bind

/-- The state. -/
def state : Dialogue σ σ := .change id .done

/-- Changes the state. -/
def modify (f : σ → σ) : Dialogue σ Unit := .change f fun _ => .done ()

def now : Dialogue σ Instant := .clock .done

def request (r : Request) : Dialogue σ (Outcome Json) := .send r .done

/-! ## Running -/

/-- Runs a dialogue at a given time to its end. -/
def run (net : Network τ) (time : Instant) : Dialogue σ α → Line σ τ → α × Line σ τ
  | .done a, line => (a, line)
  | .change f next, line => run net time (next line.state) { line with state := f line.state }
  | .clock next, line => run net time (next time) line
  | .send r next, line =>
      let (answer, wire) := net.answer r line.wire
      run net time (next answer) { line with wire, sent := line.sent ++ [r] }

/-- The same dialogue on a part of a larger state. -/
def within (get : τ → σ) (put : σ → τ → τ) : Dialogue σ α → Dialogue τ α
  | .done a => .done a
  | .change f next => .change (fun t => put (f (get t)) t) fun t => (next (get t)).within get put
  | .clock next => .clock fun t => (next t).within get put
  | .send r next => .send r fun answer => (next answer).within get put

@[simp]
theorem run_pure (net : Network τ) (time : Instant) (a : α) (line : Line σ τ) :
    run net time (pure a) line = (a, line) := rfl

@[simp]
theorem run_state (net : Network τ) (time : Instant) (line : Line σ τ) :
    run net time state line = (line.state, line) := rfl

@[simp]
theorem run_modify (net : Network τ) (time : Instant) (f : σ → σ) (line : Line σ τ) :
    run net time (modify f) line = ((), { line with state := f line.state }) := rfl

@[simp]
theorem run_now (net : Network τ) (time : Instant) (line : Line σ τ) :
    run net time now line = (time, line) := rfl

/-- A request is noted, and its answer is the network's. -/
@[simp]
theorem run_request (net : Network τ) (time : Instant) (r : Request) (line : Line σ τ) :
    run net time (request r) line
      = ((net.answer r line.wire).1,
          { line with wire := (net.answer r line.wire).2, sent := line.sent ++ [r] }) := rfl

/-- Two dialogues in a row run one after the other. -/
@[simp]
theorem run_bind (net : Network τ) (time : Instant) (d : Dialogue σ α) (k : α → Dialogue σ β)
    (line : Line σ τ) :
    run net time (d >>= k) line
      = run net time (k (run net time d line).1) (run net time d line).2 := by
  show run net time (d.bind k) line = _
  induction d generalizing line with
  | done _ => rfl
  | change _ _ ih => exact ih _ _
  | clock _ ih => exact ih _ _
  | send _ _ ih => exact ih _ _

end Dialogue

end QuantumJobs

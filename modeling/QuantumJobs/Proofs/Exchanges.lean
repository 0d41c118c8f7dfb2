import QuantumJobs.Client
import QuantumJobs.Proofs.WaitSteps

/-!
# Exchanges — what a dialogue sends and what it is answered

A run of a dialogue is seen by the network as a list of exchanges: requests with their answers.  The
requests of that list are what the run adds to the requests that have been sent before.  Which
requests a dialogue may send at all can be told from its tree, for every network at once; of a client
it follows from what its backend sends in order to log in, since all else are GETs and submissions.
-/

namespace QuantumJobs

variable {σ τ α β : Type}

structure Exchange where
  request : Request
  answer : Outcome Json

namespace Dialogue

/-! ## Exchanges -/

/-- The exchanges of a run in their order. -/
def exchanges (net : Network τ) (time : Instant) : Dialogue σ α → Line σ τ → List Exchange
  | .done _, _ => []
  | .change f next, line => exchanges net time (next line.state) { line with state := f line.state }
  | .clock next, line => exchanges net time (next time) line
  | .send r next, line =>
      let (answer, wire) := net.answer r line.wire
      ⟨r, answer⟩ :: exchanges net time (next answer) { line with wire, sent := line.sent ++ [r] }

variable {net : Network τ} {time : Instant}

@[simp]
theorem exchanges_pure (a : α) (line : Line σ τ) :
    (pure a : Dialogue σ α).exchanges net time line = [] := rfl

@[simp]
theorem exchanges_state (line : Line σ τ) :
    (state : Dialogue σ σ).exchanges net time line = [] := rfl

@[simp]
theorem exchanges_modify (f : σ → σ) (line : Line σ τ) :
    (modify f).exchanges net time line = [] := rfl

@[simp]
theorem exchanges_now (line : Line σ τ) :
    (now : Dialogue σ Instant).exchanges net time line = [] := rfl

@[simp]
theorem exchanges_request (r : Request) (line : Line σ τ) :
    (request r).exchanges net time line = [⟨r, (net.answer r line.wire).1⟩] := rfl

/-- What is sent in a run is what its exchanges ask. -/
theorem sent_run (d : Dialogue σ α) (line : Line σ τ) :
    (d.run net time line).2.sent = line.sent ++ (d.exchanges net time line).map (·.request) := by
  induction d generalizing line with
  | done _ => simp [run, exchanges]
  | change _ _ ih => exact ih line.state _
  | clock _ ih => exact ih time line
  | send r _ ih => simp [run, exchanges, ih]

/-- The exchanges of two dialogues in a row follow each other. -/
@[simp]
theorem exchanges_bind (d : Dialogue σ α) (k : α → Dialogue σ β) (line : Line σ τ) :
    (d >>= k).exchanges net time line
      = d.exchanges net time line
        ++ (k (d.run net time line).1).exchanges net time (d.run net time line).2 := by
  show (d.bind k).exchanges net time line = _
  induction d generalizing line with
  | done _ => rfl
  | change _ _ ih => exact ih line.state _
  | clock _ ih => exact ih time line
  | send r _ ih => simp [bind, run, exchanges, ih]

/-! ## Requests that may be sent -/

/-- Whatever a dialogue is answered, the requests that it sends are allowed. -/
inductive Only (allowed : Request → Prop) : Dialogue σ α → Prop where
  | done (a : α) : Only allowed (.done a)
  | change {f : σ → σ} {next : σ → Dialogue σ α} :
      (∀ s, Only allowed (next s)) → Only allowed (.change f next)
  | clock {next : Instant → Dialogue σ α} :
      (∀ time, Only allowed (next time)) → Only allowed (.clock next)
  | send {r : Request} {next : Outcome Json → Dialogue σ α} :
      allowed r → (∀ answer, Only allowed (next answer)) → Only allowed (.send r next)

namespace Only

variable {allowed : Request → Prop}

theorem bind {d : Dialogue σ α} {k : α → Dialogue σ β} (first : d.Only allowed)
    (next : ∀ a, (k a).Only allowed) : (d >>= k).Only allowed := by
  show (d.bind k).Only allowed
  induction first with
  | done a => exact next a
  | change _ ih => exact .change ih
  | clock _ ih => exact .clock ih
  | send ok _ ih => exact .send ok ih

theorem state : (Dialogue.state (σ := σ)).Only allowed := .change .done

theorem now : (Dialogue.now (σ := σ)).Only allowed := .clock .done

theorem request {r : Request} (ok : allowed r) : (Dialogue.request (σ := σ) r).Only allowed :=
  .send ok .done

end Only
end Dialogue

/-! ## What a line is left with -/

/-- Between two places on a line only allowed requests have been sent. -/
def Line.Adds (allowed : Request → Prop) (line line' : Line σ τ) : Prop :=
  ∃ new, line'.sent = line.sent ++ new ∧ ∀ r ∈ new, allowed r

namespace Line.Adds

variable {allowed : Request → Prop} {a b c : Line σ τ}

theorem none (same : b.sent = a.sent) : a.Adds allowed b :=
  ⟨[], by rw [same, List.append_nil], fun _ here => nomatch here⟩

theorem trans (first : a.Adds allowed b) (second : b.Adds allowed c) : a.Adds allowed c := by
  obtain ⟨early, sent, ok⟩ := first
  obtain ⟨late, sent', ok'⟩ := second
  refine ⟨early ++ late, ?_, ?_⟩
  · rw [sent', sent, List.append_assoc]
  · intro r here
    rcases List.mem_append.1 here with here | here
    · exact ok r here
    · exact ok' r here

theorem mono {more : Request → Prop} (adds : a.Adds allowed b) (ok : ∀ r, allowed r → more r) :
    a.Adds more b := by
  obtain ⟨new, sent, all⟩ := adds
  exact ⟨new, sent, fun r here => ok r (all r here)⟩

end Line.Adds

theorem Dialogue.Only.adds {allowed : Request → Prop} {d : Dialogue σ α} (only : d.Only allowed)
    (net : Network τ) (time : Instant) (line : Line σ τ) :
    line.Adds allowed (d.run net time line).2 := by
  induction only generalizing line with
  | done _ => exact .none rfl
  | change _ ih => exact ih line.state { line with state := _ }
  | clock _ ih => exact ih time line
  | @send r _ ok _ ih =>
      have sent : line.Adds allowed
          { line with wire := (net.answer r line.wire).2, sent := line.sent ++ [r] } := by
        refine ⟨[r], rfl, ?_⟩
        intro q here
        obtain rfl := List.mem_singleton.1 here
        exact ok
      exact sent.trans (ih _ _)

/-! ## What a client may send -/

/-- All GETs are allowed, and so is whatever the backend sends to log in. -/
structure Backend.Asks (allowed : Request → Prop) (b : Backend σ) : Prop where
  gets : ∀ base path headers, allowed (.get base path headers)
  connect : ∀ env c, (b.connect env c).Only allowed
  refresh : b.refresh.Only allowed

namespace Backend.Asks

open Dialogue (Only)

variable {allowed : Request → Prop} {b : Backend σ}

theorem getOnce (asks : b.Asks allowed) (path : String) : (b.getOnce path).Only allowed :=
  Only.state.bind fun s => .request (asks.gets (b.baseUrl s) path (b.headers s))

theorem fetch (asks : b.Asks allowed) (path : String) : (b.fetch path).Only allowed := by
  refine (asks.getOnce path).bind ?_
  intro answer
  by_cases unauthorized : isUnauthorized answer = true
  · -- The token is renewed, and then the same GET is sent once more.
    rw [if_pos unauthorized]
    refine asks.refresh.bind ?_
    intro renewed
    cases renewed with
    | error fault => exact .done _
    | ok _ => exact asks.getOnce path
  · rw [if_neg unauthorized]
    exact .done _

theorem readResults (b : Backend σ) (h : Handle) (m : Json) : (b.readResults h m).Only allowed := by
  refine .change ?_
  intro s
  cases (b.results m h.job s).1 with
  | error fault => exact .done _
  | ok result => exact .done _

theorem collect (asks : b.Asks allowed) (h : Handle) (status : Json) :
    (b.collect h status).Only allowed := by
  refine Only.state.bind ?_
  intro s
  cases b.resultsPath s h.job with
  | none => exact readResults b h status
  | some path =>
      refine (asks.fetch path).bind ?_
      intro answer
      cases answer with
      | error fault => exact .done _
      | ok m => exact readResults b h m

theorem check (asks : b.Asks allowed) (h : Handle) : (b.check h).Only allowed := by
  refine (asks.fetch h.statusPath).bind ?_
  intro answer
  cases answer with
  | error fault => exact .done _
  | ok status =>
      refine Only.state.bind ?_
      intro s
      rcases b.isDone s status with fault | _ | _
      · exact .done _
      · exact .done _
      · exact asks.collect h status

theorem poll (asks : b.Asks allowed) (h : Handle) : (b.poll h).Only allowed := by
  refine Only.state.bind ?_
  intro s
  cases h.known? (b.name s) with
  | some answer => exact .done _
  | none => exact (asks.check h).bind fun _ => .done _

theorem connectTo (asks : b.Asks allowed) (registry : Registry σ) (env : Environment)
    (name : String) (c : Config) : (b.connectTo registry env name c).Only allowed := by
  unfold Backend.connectTo
  cases registry.create name with
  | error fault => exact .done _
  | ok blueprint => exact .change fun _ => asks.connect env c

theorem resume (asks : b.Asks allowed) (registry : Registry σ) (env : Environment) (h : Handle)
    (overrides : Config) : (b.resume registry env h overrides).Only allowed :=
  asks.connectTo registry env h.backend (resumption h overrides)

/-! ## Waits -/

variable (asks : b.Asks allowed) (net : Network τ) (now : Instant)

include asks

theorem kept_adds (line : Line σ τ) :
    Wait.KeptByChecks b net now fun _ after => line.Adds allowed after :=
  fun h after adds => adds.trans ((asks.check h).adds net now after)

theorem adds_wait (rounds : Nat) (h : Handle) (line : Line σ τ) :
    line.Adds allowed (Wait.run b net now rounds h line).2.line :=
  Wait.kept_run (asks.kept_adds net now line) rounds (.none rfl)

theorem adds_waitUntil (patience : Span) (h : Handle) (line : Line σ τ) :
    line.Adds allowed (Wait.runUntil b net now patience h line).2.line :=
  Wait.kept_runUntil (asks.kept_adds net now line) patience (.none rfl)

end Backend.Asks
end QuantumJobs

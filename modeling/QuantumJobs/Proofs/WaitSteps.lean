import QuantumJobs.Polling

/-!
# WaitSteps — what every check keeps, a wait keeps

A wait is a row of checks, however it ends.  What holds of a handle and of the line to the network,
and is kept by a check that settles the handle, holds after a wait of any length, with or without a
deadline.  In particular a handle that has been polled or waited for is the same but for its
outcome.  If it had none before, the answer tells what that is.
-/

namespace QuantumJobs

variable {σ τ : Type} {b : Backend σ} {net : Network τ} {now : Instant}

namespace Wait

/-- A check keeps what holds of a handle and of the line. -/
def KeptByChecks (b : Backend σ) (net : Network τ) (now : Instant)
    (holds : Handle → Line σ τ → Prop) : Prop :=
  ∀ h line, holds h line →
    holds (h.settle ((b.check h).run net now line).1) ((b.check h).run net now line).2

variable {holds : Handle → Line σ τ → Prop}

theorem kept_round (kept : KeptByChecks b net now holds) (delay : Span) {w : Wait σ τ}
    (before : holds w.handle w.line) :
    holds (round b net now delay w).2.handle (round b net now delay w).2.line :=
  kept w.handle w.line before

theorem kept_loop (kept : KeptByChecks b net now holds) :
    ∀ (rounds : Nat) (delay : Span) {w : Wait σ τ}, holds w.handle w.line →
      holds (loop b net now rounds delay w).2.handle (loop b net now rounds delay w).2.line := by
  intro rounds
  induction rounds with
  | zero =>
      intro delay w before
      exact before
  | succ rounds ih =>
      intro delay w before
      have after := kept_round kept delay before
      unfold loop
      split
      · rename_i found
        rw [found] at after
        exact ih _ after
      · rename_i found
        rw [found] at after
        exact after

theorem kept_loopUntil (kept : KeptByChecks b net now holds) (deadline : Span) :
    ∀ (rounds : Nat) (delay : Span) {w : Wait σ τ}, holds w.handle w.line →
      holds (loopUntil b net now deadline rounds delay w).2.handle
        (loopUntil b net now deadline rounds delay w).2.line := by
  intro rounds
  induction rounds with
  | zero =>
      intro delay w before
      exact before
  | succ rounds ih =>
      intro delay w before
      have after := kept_round kept delay before
      unfold loopUntil
      by_cases early : w.elapsed + delay.asRest ≤ deadline
      · rw [if_pos early]
        split
        · rename_i found
          rw [found] at after
          exact ih _ after
        · rename_i found
          rw [found] at after
          exact after
      · rw [if_neg early]
        exact before

theorem kept_run (kept : KeptByChecks b net now holds) (rounds : Nat) {h : Handle}
    {line : Line σ τ} (before : holds h line) :
    holds (run b net now rounds h line).2.handle (run b net now rounds h line).2.line := by
  unfold run
  cases h.known? (b.name line.state) with
  | some answer => exact before
  | none => exact kept_loop kept rounds h.initialDelay before

theorem kept_runUntil (kept : KeptByChecks b net now holds) (patience : Span) {h : Handle}
    {line : Line σ τ} (before : holds h line) :
    holds (runUntil b net now patience h line).2.handle
      (runUntil b net now patience h line).2.line := by
  simp only [runUntil]
  cases h.known? (b.name line.state) with
  | some answer => exact before
  | none => exact kept_loopUntil kept patience.wholeMillis _ h.initialDelay before

end Wait

namespace Handle

/-- Two handles of one job that may differ in the outcome only. -/
def SameJob (h g : Handle) : Prop := g = { h with outcome := g.outcome }

theorem SameJob.refl (h : Handle) : h.SameJob h := rfl

theorem SameJob.trans {h g k : Handle} (first : h.SameJob g) (second : g.SameJob k) :
    h.SameJob k := by
  unfold SameJob at first second ⊢
  rw [second, first]

theorem SameJob.job {h g : Handle} (same : h.SameJob g) : g.job = h.job := by
  rw [same]

theorem sameJob_settle (h : Handle) (c : Check) : h.SameJob (h.settle c) := by
  unfold settle resolve
  cases c.outcome? with
  | none => exact .refl h
  | some o =>
      cases ended : h.outcome with
      | none => rfl
      | some _ => exact .refl h

theorem sameJob_of_poll {h g : Handle} {line line' : Line σ τ} {answer : Outcome Poll}
    (polled : (b.poll h).run net now line = ((answer, g), line')) : h.SameJob g := by
  simp only [Backend.poll, Dialogue.run_bind, Dialogue.run_state] at polled
  cases known : h.known? (b.name line.state) with
  | some answer =>
      simp only [known, Dialogue.run_pure] at polled
      cases polled
      exact .refl h
  | none =>
      simp only [known, Dialogue.run_bind, Dialogue.run_pure] at polled
      cases polled
      exact sameJob_settle h _

theorem kept_sameJob (h : Handle) :
    Wait.KeptByChecks b net now fun g (_ : Line σ τ) => h.SameJob g :=
  fun g _ same => same.trans (sameJob_settle g _)

theorem sameJob_of_wait {rounds : Nat} {h : Handle} {line : Line σ τ} {w : Wait σ τ}
    {answer : Option (Outcome SampleResult)}
    (waited : Wait.run b net now rounds h line = (answer, w)) : h.SameJob w.handle := by
  have same : h.SameJob (Wait.run b net now rounds h line).2.handle :=
    Wait.kept_run (kept_sameJob h) rounds (.refl h)
  rw [waited] at same
  exact same

theorem sameJob_of_waitUntil {patience : Span} {h : Handle} {line : Line σ τ} {w : Wait σ τ}
    {answer : Option (Outcome SampleResult)}
    (waited : Wait.runUntil b net now patience h line = (answer, w)) : h.SameJob w.handle := by
  have same : h.SameJob (Wait.runUntil b net now patience h line).2.handle :=
    Wait.kept_runUntil (kept_sameJob h) patience (.refl h)
  rw [waited] at same
  exact same

end Handle

/-! ## Answers and outcomes -/

/-- How the answer of a poll goes with the outcome that a handle then has, if it had none before. -/
inductive Poll.Tallies : Outcome Poll → Option JobOutcome → Prop where
  | pending (next : Span) : Tallies (.ok (.pending next)) none
  | done (result : SampleResult) : Tallies (.ok (.done result)) (some (.done result))
  | failed (fault : Fault) : Tallies (.error fault) (some (.failed (.ofFault fault)))
  | interrupted (fault : Fault) : Tallies (.error fault) none

/-- The same for a wait, which has no answer if its time is over. -/
inductive Wait.Tallies : Option (Outcome SampleResult) → Option JobOutcome → Prop where
  | expired : Tallies none none
  | done (result : SampleResult) : Tallies (some (.ok result)) (some (.done result))
  | failed (fault : Fault) : Tallies (some (.error fault)) (some (.failed (.ofFault fault)))
  | interrupted (fault : Fault) : Tallies (some (.error fault)) none

theorem Handle.outcome_settle {h : Handle} (pending : h.outcome = none) (c : Check) :
    (h.settle c).outcome = c.outcome? := by
  unfold settle resolve
  cases c.outcome? with
  | none => exact pending
  | some o => rw [pending]

/-- What is known of a handle without an outcome can only be that the backend is the wrong one. -/
theorem Handle.known?_of_pending {h : Handle} (pending : h.outcome = none) {asked : String}
    {answer : Outcome SampleResult} (known : h.known? asked = some answer) :
    ∃ fault, answer = .error fault := by
  unfold known? at known
  rw [pending] at known
  simp only at known
  split at known
  · cases known
  · cases known
    exact ⟨_, rfl⟩

theorem Poll.tallies_of_check (c : Check) : Tallies c.poll c.outcome? := by
  cases c with
  | pending next => exact .pending next
  | done result => exact .done result
  | failed fault => exact .failed fault
  | interrupted fault => exact .interrupted fault

theorem Poll.tallies_of_run {h g : Handle} {line line' : Line σ τ} {answer : Outcome Poll}
    (pending : h.outcome = none)
    (polled : (b.poll h).run net now line = ((answer, g), line')) : Tallies answer g.outcome := by
  simp only [Backend.poll, Dialogue.run_bind, Dialogue.run_state] at polled
  cases known : h.known? (b.name line.state) with
  | some answer =>
      obtain ⟨fault, rfl⟩ := Handle.known?_of_pending pending known
      simp only [known, Dialogue.run_pure] at polled
      cases polled
      rw [pending]
      exact .interrupted fault
  | none =>
      simp only [known, Dialogue.run_bind, Dialogue.run_pure] at polled
      cases polled
      rw [Handle.outcome_settle pending]
      exact tallies_of_check _

namespace Wait

theorem tallies_of_verdict {c : Check} (ends : ∀ next, c ≠ .pending next) :
    Tallies (verdict c) c.outcome? := by
  cases c with
  | pending next => exact absurd rfl (ends next)
  | done result => exact .done result
  | failed fault => exact .failed fault
  | interrupted fault => exact .interrupted fault

theorem tallies_loop :
    ∀ (rounds : Nat) (delay : Span) {w : Wait σ τ}, w.handle.outcome = none →
      Tallies (loop b net now rounds delay w).1 (loop b net now rounds delay w).2.handle.outcome := by
  intro rounds
  induction rounds with
  | zero =>
      intro delay w pending
      show Tallies none w.handle.outcome
      rw [pending]
      exact .expired
  | succ rounds ih =>
      intro delay w pending
      have settled : (round b net now delay w).2.handle.outcome
          = (round b net now delay w).1.outcome? := Handle.outcome_settle pending _
      unfold loop
      split
      · rename_i found
        rw [found] at settled
        exact ih _ settled
      · rename_i ends found
        rw [found] at settled
        rw [settled]
        exact tallies_of_verdict ends

variable {h : Handle} {line : Line σ τ} {answer : Option (Outcome SampleResult)} {w : Wait σ τ}

theorem tallies_of_run {rounds : Nat} (pending : h.outcome = none)
    (waited : run b net now rounds h line = (answer, w)) : Tallies answer w.handle.outcome := by
  unfold run at waited
  cases known : h.known? (b.name line.state) with
  | some answer =>
      obtain ⟨fault, rfl⟩ := Handle.known?_of_pending pending known
      simp only [known] at waited
      cases waited
      rw [pending]
      exact .interrupted fault
  | none =>
      have tallies : Tallies
          (loop b net now rounds h.initialDelay (⟨.zero, h, line⟩ : Wait σ τ)).1
          (loop b net now rounds h.initialDelay ⟨.zero, h, line⟩).2.handle.outcome :=
        tallies_loop rounds h.initialDelay pending
      simp only [known] at waited
      rw [waited] at tallies
      exact tallies

end Wait

end QuantumJobs

import QuantumJobs.Proofs.ReachedHandles

/-!
# ResumedPolling — a handle and its decoded record are polled alike

A record does not keep everything: the initial delay is cut to whole milliseconds, and a failure's
response of null is read back as none.  Polling sees none of that.  Two handles that agree on what a
poll looks at get the same answers, send the same requests and stay in agreement, for any number of
polls with any backend and any network.
-/

namespace QuantumJobs

variable {σ τ : Type}

/-! ## What a poll looks at -/

/-- The phase can be told from what a job's outcome answers. -/
theorem JobOutcome.phase_of_answer {o p : JobOutcome} (same : o.answer = p.answer) :
    o.phase = p.phase := by
  cases o with
  | done _ =>
      cases p with
      | done _ => rfl
      | failed _ => cases same
  | failed _ =>
      cases p with
      | done _ => cases same
      | failed _ => rfl

theorem JobOutcome.answer_restored (o : JobOutcome) : o.restored.answer = o.answer := by
  cases o with
  | done _ => rfl
  | failed failure => exact congrArg Except.error failure.toFault_restored

namespace Handle

/-- Two handles of one job whose outcomes, if any, answer alike.  The configuration, the delays and
the times may differ. -/
structure Alike (h g : Handle) : Prop where
  backend : h.backend = g.backend
  job : h.job = g.job
  statusPath : h.statusPath = g.statusPath
  kernels : h.kernels = g.kernels
  answer : h.outcome.map JobOutcome.answer = g.outcome.map JobOutcome.answer

theorem alike_restored (h : Handle) : h.Alike h.restored where
  backend := rfl
  job := rfl
  statusPath := rfl
  kernels := rfl
  answer := by
    unfold restored
    cases h.outcome with
    | none => rfl
    | some o => exact congrArg some o.answer_restored.symm

namespace Alike

variable {h g : Handle}

theorem phase (alike : h.Alike g) : h.phase = g.phase := by
  have answer := alike.answer
  unfold Handle.phase
  cases mine : h.outcome with
  | none =>
      cases yours : g.outcome with
      | none => rfl
      | some p => simp [mine, yours] at answer
  | some o =>
      cases yours : g.outcome with
      | none => simp [mine, yours] at answer
      | some p =>
          rw [mine, yours] at answer
          exact JobOutcome.phase_of_answer (Option.some.inj answer)

theorem known? (alike : h.Alike g) (asked : String) : h.known? asked = g.known? asked := by
  have answer := alike.answer
  have foreign : h.foreign asked = g.foreign asked := by
    unfold Handle.foreign
    rw [alike.job, alike.backend]
  unfold Handle.known?
  cases mine : h.outcome with
  | none =>
      cases yours : g.outcome with
      | none => simp only [alike.backend, foreign]
      | some p => simp [mine, yours] at answer
  | some o =>
      cases yours : g.outcome with
      | none => simp [mine, yours] at answer
      | some p =>
          rw [mine, yours] at answer
          exact answer

/-- A check of either handle is the same dialogue. -/
theorem check (alike : h.Alike g) (b : Backend σ) : b.check h = b.check g := by
  unfold Backend.check Backend.collect Backend.readResults
  rw [alike.statusPath, alike.job, alike.kernels]

theorem settle (alike : h.Alike g) (c : Check) : (h.settle c).Alike (g.settle c) := by
  cases ends : c.outcome? with
  | none =>
      rw [settle_of_outcome?_none ends, settle_of_outcome?_none ends]
      exact alike
  | some o =>
      have answer := alike.answer
      unfold Handle.settle
      rw [ends]
      -- The outcome is written into both handles or into neither.
      unfold Handle.resolve
      cases mine : h.outcome with
      | none =>
          cases yours : g.outcome with
          | none => exact ⟨alike.backend, alike.job, alike.statusPath, alike.kernels, rfl⟩
          | some p => simp [mine, yours] at answer
      | some o =>
          cases yours : g.outcome with
          | none => simp [mine, yours] at answer
          | some p => exact alike

/-! ## One poll and many -/

variable (b : Backend σ) (net : Network τ)

/-- One poll answers alike, leaves the line to the network at the same place, and keeps the handles
in agreement. -/
theorem poll (alike : h.Alike g) (now : Instant) (line : Line σ τ) :
    ((b.poll h).run net now line).1.1 = ((b.poll g).run net now line).1.1 ∧
      ((b.poll h).run net now line).1.2.Alike ((b.poll g).run net now line).1.2 ∧
      ((b.poll h).run net now line).2 = ((b.poll g).run net now line).2 := by
  unfold Backend.poll
  simp only [Dialogue.run_bind, Dialogue.run_state, alike.known?, alike.check b]
  cases g.known? (b.name line.state) with
  | some answer => exact ⟨rfl, alike, rfl⟩
  | none =>
      simp only [Dialogue.run_bind, Dialogue.run_pure]
      exact ⟨trivial, alike.settle _, trivial⟩

end Alike
end Handle

/-- Polls one after another.  Each is made at a time of its own and takes the line to the network
from where others have left it meanwhile; the answers come in order. -/
def Backend.pollAll (b : Backend σ) (net : Network τ) :
    List (Instant × (Line σ τ → Line σ τ)) → Handle → Line σ τ →
      List (Outcome Poll) × Handle × Line σ τ
  | [], h, line => ([], h, line)
  | (now, meanwhile) :: polls, h, line =>
      let ((answer, h), line) := (b.poll h).run net now (meanwhile line)
      let (answers, last) := b.pollAll net polls h line
      (answer :: answers, last)

namespace Handle

variable {h g : Handle}

theorem Alike.pollAll (b : Backend σ) (net : Network τ)
    (polls : List (Instant × (Line σ τ → Line σ τ))) :
    ∀ {h g : Handle} (line : Line σ τ), h.Alike g →
      (b.pollAll net polls h line).1 = (b.pollAll net polls g line).1 ∧
        (b.pollAll net polls h line).2.1.Alike (b.pollAll net polls g line).2.1 ∧
        (b.pollAll net polls h line).2.2 = (b.pollAll net polls g line).2.2 := by
  induction polls with
  | nil =>
      intro h g line alike
      exact ⟨rfl, alike, rfl⟩
  | cons poll polls ih =>
      intro h g line alike
      obtain ⟨now, meanwhile⟩ := poll
      obtain ⟨answer, next, lines⟩ := alike.poll b net now (meanwhile line)
      obtain ⟨answers, last, ends⟩ := ih ((b.poll h).run net now (meanwhile line)).2 next
      unfold Backend.pollAll
      rw [lines] at answers last ends
      simp only [answer, lines]
      exact ⟨congrArg _ answers, last, ends⟩

/-- The record of every handle whose values fit their machine types is read back, and the handle
that comes back is polled as the handle itself is: with every backend and every network each of any
number of polls gets the same answer, and when they are over the backend, the network and the
requests that were sent are the same, the phases are equal and the outcomes, if there are any,
answer alike. -/
theorem pollAll_of_record (fits : h.Fits) :
    ∃ h', ofJson h.toJson = .ok h' ∧
      ∀ {σ τ : Type} (b : Backend σ) (net : Network τ)
        (polls : List (Instant × (Line σ τ → Line σ τ))) (line : Line σ τ),
        (b.pollAll net polls h line).1 = (b.pollAll net polls h' line).1 ∧
          (b.pollAll net polls h line).2.2 = (b.pollAll net polls h' line).2.2 ∧
          (b.pollAll net polls h line).2.1.phase = (b.pollAll net polls h' line).2.1.phase ∧
          (b.pollAll net polls h line).2.1.outcome.map JobOutcome.answer =
            (b.pollAll net polls h' line).2.1.outcome.map JobOutcome.answer := by
  refine ⟨h.restored, ofJson_toJson fits, ?_⟩
  intro σ τ b net polls line
  obtain ⟨answers, last, lines⟩ := Alike.pollAll b net polls line h.alike_restored
  exact ⟨answers, lines, last.phase, last.answer⟩

/-- A job that failed on a response of null is one whose record does not keep everything. -/
theorem pollAll_of_refusedJob :
    refusedJob.Fits ∧ refusedJob.KeepsNull ∧ ∃ h', ofJson refusedJob.toJson = .ok h' ∧
      ∀ polls : List (Instant × (Line Plain.Session Unit → Line Plain.Session Unit)),
        ∀ line : Line Plain.Session Unit,
          (Plain.backend.pollAll Backend.nullNetwork polls refusedJob line).1 =
            (Plain.backend.pollAll Backend.nullNetwork polls h' line).1 := by
  have fits := reachable_refusedJob.fits
  obtain ⟨h', read, alike⟩ := pollAll_of_record fits
  refine ⟨fits, ⟨_, rfl, rfl⟩, h', read, ?_⟩
  intro polls line
  exact (alike Plain.backend Backend.nullNetwork polls line).1

end Handle
end QuantumJobs

import Mathlib.Data.List.Infix
import QuantumJobs.Client

/-!
# JobPlan — what a client does with one job

A plan takes a configuration into use, submits one job and then makes moves: polls, waits and
resumptions.  Carrying it out gives the handle as it is after the submission and after every move.
A resumption sets up the backend again and does not touch the handle; if that fails, so does the
plan.  Whatever a plan does, the requests that have been sent stay sent.
-/

namespace QuantumJobs

variable {σ τ α : Type}

/-! ## Plans -/

/-- What a client may do with the handle of a job. -/
inductive Move
  | poll
  /-- A wait that is dropped after a number of checks, unless the job ends before. -/
  | wait (rounds : Nat)
  | waitUntil (patience : Span)
  /-- Sets up the backend again, as another process would. -/
  | resume (env : Environment) (overrides : Config)

structure Plan where
  backend : String
  env : Environment
  config : Config
  kernels : List Kernel
  connectAt : Instant
  submitAt : Instant
  moves : List (Instant × Move)

namespace Backend

/-- One move: the handle after it and where the line to the network then stands. -/
def makeMove (b : Backend σ) (registry : Registry σ) (net : Network τ) (now : Instant)
    (m : Move) (h : Handle) (line : Line σ τ) : Outcome (Handle × Line σ τ) :=
  match m with
  | .poll =>
      let ((_, h), line) := (b.poll h).run net now line
      .ok (h, line)
  | .wait rounds =>
      let (_, w) := Wait.run b net now rounds h line
      .ok (w.handle, w.line)
  | .waitUntil patience =>
      let (_, w) := Wait.runUntil b net now patience h line
      .ok (w.handle, w.line)
  | .resume env overrides =>
      match (b.resume registry env h overrides).run net now line with
      | (.error fault, _) => .error fault
      | (.ok (), line) => .ok (h, line)

/-- Moves one after another: the handle before them and after each of them. -/
def makeMoves (b : Backend σ) (registry : Registry σ) (net : Network τ) :
    List (Instant × Move) → Handle → Line σ τ → Outcome (List Handle × Line σ τ)
  | [], h, line => .ok ([h], line)
  | (now, m) :: moves, h, line =>
      match b.makeMove registry net now m h line with
      | .error fault => .error fault
      | .ok (next, line) =>
          match b.makeMoves registry net moves next line with
          | .error fault => .error fault
          | .ok (handles, line) => .ok (h :: handles, line)

/-- Carries out a plan: the handle after the submission and after every move.  There is none if the
submission is refused; the plan fails only if the backend cannot be set up. -/
def carryOut (b : Backend σ) (registry : Registry σ) (net : Network τ) (p : Plan)
    (line : Line σ τ) : Outcome (List Handle × Line σ τ) :=
  match (b.connectTo registry p.env p.backend p.config).run net p.connectAt line with
  | (.error fault, _) => .error fault
  | (.ok (), line) =>
      match (b.submit p.kernels).run net p.submitAt line with
      | (.error _, line) => .ok ([], line)
      | (.ok h, line) => b.makeMoves registry net p.moves h line

end Backend

/-! ## What has been sent -/

theorem Dialogue.sent_prefix (net : Network τ) (time : Instant) (d : Dialogue σ α)
    (line : Line σ τ) : line.sent <+: (d.run net time line).2.sent := by
  induction d generalizing line with
  | done _ => exact List.prefix_refl _
  | change f _ ih => exact ih line.state { line with state := f line.state }
  | clock _ ih => exact ih time line
  | send r _ ih =>
      have next := ih (net.answer r line.wire).1
        { line with wire := (net.answer r line.wire).2, sent := line.sent ++ [r] }
      exact (List.prefix_append line.sent [r]).trans next

namespace Wait

variable (b : Backend σ) (net : Network τ) (now : Instant)

variable {b net now} in
/-- A round is a check, after which the wait stands where the check has ended. -/
theorem round_inv {delay : Span} {w w' : Wait σ τ} {c : Check}
    (found : round b net now delay w = (c, w')) :
    (b.check w.handle).run net now w.line = (c, w'.line) ∧
      w'.elapsed = w.elapsed + delay.asRest ∧ w'.handle = w.handle.settle c := by
  cases found
  exact ⟨rfl, rfl, rfl⟩

theorem sent_prefix_round (delay : Span) (w : Wait σ τ) :
    w.line.sent <+: (round b net now delay w).2.line.sent :=
  Dialogue.sent_prefix net now (b.check w.handle) w.line

theorem sent_prefix_loop :
    ∀ (rounds : Nat) (delay : Span) (w : Wait σ τ),
      w.line.sent <+: (loop b net now rounds delay w).2.line.sent := by
  intro rounds
  induction rounds with
  | zero =>
      intro delay w
      exact List.prefix_refl _
  | succ rounds ih =>
      intro delay w
      have first := sent_prefix_round b net now delay w
      unfold loop
      split
      · rename_i found
        rw [found] at first
        exact first.trans (ih _ _)
      · rename_i found
        rw [found] at first
        exact first

theorem sent_prefix_loopUntil (deadline : Span) :
    ∀ (rounds : Nat) (delay : Span) (w : Wait σ τ),
      w.line.sent <+: (loopUntil b net now deadline rounds delay w).2.line.sent := by
  intro rounds
  induction rounds with
  | zero =>
      intro delay w
      exact List.prefix_refl _
  | succ rounds ih =>
      intro delay w
      have first := sent_prefix_round b net now delay w
      unfold loopUntil
      by_cases early : w.elapsed + delay.asRest ≤ deadline
      · rw [if_pos early]
        split
        · rename_i found
          rw [found] at first
          exact first.trans (ih _ _)
        · rename_i found
          rw [found] at first
          exact first
      · simp only [if_neg early]
        exact List.prefix_refl _

theorem sent_prefix_run (rounds : Nat) (h : Handle) (line : Line σ τ) :
    line.sent <+: (run b net now rounds h line).2.line.sent := by
  unfold run
  cases h.known? (b.name line.state) with
  | some answer => exact List.prefix_refl _
  | none => exact sent_prefix_loop b net now rounds h.initialDelay ⟨.zero, h, line⟩

theorem sent_prefix_runUntil (patience : Span) (h : Handle) (line : Line σ τ) :
    line.sent <+: (runUntil b net now patience h line).2.line.sent := by
  simp only [runUntil]
  cases h.known? (b.name line.state) with
  | some answer => exact List.prefix_refl _
  | none =>
      exact sent_prefix_loopUntil b net now patience.wholeMillis (roundsWithin patience.wholeMillis)
        h.initialDelay ⟨.zero, h, line⟩

end Wait

namespace Backend

variable {b : Backend σ} {registry : Registry σ} {net : Network τ}

theorem sent_prefix_makeMove {now : Instant} {m : Move} {h next : Handle} {line line' : Line σ τ}
    (made : b.makeMove registry net now m h line = .ok (next, line')) :
    line.sent <+: line'.sent := by
  cases m with
  | poll =>
      cases made
      exact Dialogue.sent_prefix net now (b.poll h) line
  | wait rounds =>
      cases made
      exact Wait.sent_prefix_run b net now rounds h line
  | waitUntil patience =>
      cases made
      exact Wait.sent_prefix_runUntil b net now patience h line
  | resume env overrides =>
      have sent := Dialogue.sent_prefix net now (b.resume registry env h overrides) line
      unfold makeMove at made
      rcases resumed : (b.resume registry env h overrides).run net now line with ⟨_ | _, after⟩
      · simp [resumed] at made
      · simp only [resumed, Except.ok.injEq, Prod.mk.injEq] at made
        rw [resumed, made.2] at sent
        exact sent

/-- The moves after a first one begin where it has led to. -/
theorem makeMoves_cons {now : Instant} {m : Move} {moves : List (Instant × Move)} {h : Handle}
    {line last : Line σ τ} {handles : List Handle}
    (made : b.makeMoves registry net ((now, m) :: moves) h line = .ok (handles, last)) :
    ∃ next line' later, b.makeMove registry net now m h line = .ok (next, line') ∧
      b.makeMoves registry net moves next line' = .ok (later, last) ∧ handles = h :: later := by
  unfold makeMoves at made
  rcases first : b.makeMove registry net now m h line with _ | ⟨next, line'⟩
  · simp [first] at made
  · simp only [first] at made
    rcases rest : b.makeMoves registry net moves next line' with _ | ⟨later, last'⟩
    · simp [rest] at made
    · simp only [rest, Except.ok.injEq, Prod.mk.injEq] at made
      obtain ⟨rfl, rfl⟩ := made
      exact ⟨next, line', later, rfl, rest, rfl⟩

theorem sent_prefix_makeMoves (moves : List (Instant × Move)) :
    ∀ {h : Handle} {line last : Line σ τ} {handles : List Handle},
      b.makeMoves registry net moves h line = .ok (handles, last) → line.sent <+: last.sent := by
  induction moves with
  | nil =>
      intro h line last handles made
      cases made
      exact List.prefix_refl _
  | cons first moves ih =>
      intro h line last handles made
      obtain ⟨next, line', later, made, rest, _⟩ := makeMoves_cons made
      exact (sent_prefix_makeMove made).trans (ih rest)

end Backend
end QuantumJobs

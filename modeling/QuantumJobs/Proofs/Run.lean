import Mathlib.Data.List.Infix

/-!
# Run — what a machine has done so far

A machine answers some of its events.  A run keeps its past: every event that has happened with the
answer that it gave, the newest first.  A property of all runs is shown by one step, and a property
of every moment of a run is a property of all runs, since what is older in a past is a past as well.
-/

namespace QuantumJobs

/-- Events with their answers, the newest first. -/
abbrev Past (ε ρ : Type) := List (ε × Option ρ)

/-- The moves of a machine that is given by a function. -/
abbrev Steps {σ ε ρ : Type} (step : σ → ε → Option (σ × Option ρ)) :
    σ → ε → Option ρ → σ → Prop :=
  fun s e reply s' => step s e = some (s', reply)

/-- The machine has come from a state to another with the given past. -/
inductive Run {σ ε ρ : Type} (moves : σ → ε → Option ρ → σ → Prop) (start : σ) :
    Past ε ρ → σ → Prop where
  | start : Run moves start [] start
  | step {past : Past ε ρ} {s s' : σ} {e : ε} {reply : Option ρ} :
      Run moves start past s → moves s e reply s' → Run moves start ((e, reply) :: past) s'

namespace Run

variable {σ ε ρ : Type} {moves : σ → ε → Option ρ → σ → Prop} {a b c : σ}

/-- What holds at the start and is kept by every step holds after every run. -/
theorem invariant {holds : Past ε ρ → σ → Prop} (atStart : holds [] a)
    (kept : ∀ past s e reply s', holds past s → moves s e reply s' → holds ((e, reply) :: past) s')
    {past : Past ε ρ} (run : Run moves a past b) : holds past b := by
  induction run with
  | start => exact atStart
  | step _ move ih => exact kept _ _ _ _ _ ih move

theorem trans {early late : Past ε ρ} (first : Run moves a early b)
    (second : Run moves b late c) : Run moves a (late ++ early) c := by
  induction second with
  | start => exact first
  | step _ move ih => exact .step ih move

/-- A run was in some state at every moment of its past. -/
theorem split {early : Past ε ρ} :
    ∀ {late : Past ε ρ} {c : σ}, Run moves a (late ++ early) c →
      ∃ b, Run moves a early b ∧ Run moves b late c
  | [], c, run => ⟨c, run, .start⟩
  | (e, reply) :: late, c, run => by
      cases run with
      | step before move =>
          obtain ⟨b, first, second⟩ := split before
          exact ⟨b, first, .step second move⟩

theorem at_suffix {moment past : Past ε ρ} (run : Run moves a past c) (older : moment <:+ past) :
    ∃ b, Run moves a moment b := by
  obtain ⟨late, rfl⟩ := older
  obtain ⟨b, first, _⟩ := split run
  exact ⟨b, first⟩

end Run

/-! ## Replays -/

/-- Lets events happen one after another; empty if one of them cannot happen. -/
def replay {σ ε ρ : Type} (step : σ → ε → Option (σ × Option ρ)) :
    List ε → Past ε ρ → σ → Option (Past ε ρ × σ)
  | [], past, s => some (past, s)
  | e :: events, past, s =>
      match step s e with
      | some (s', reply) => replay step events ((e, reply) :: past) s'
      | none => none

theorem Run.of_replay {σ ε ρ : Type} {step : σ → ε → Option (σ × Option ρ)} {start : σ}
    (events : List ε) :
    ∀ {past late : Past ε ρ} {s s' : σ}, Run (Steps step) start past s →
      replay step events past s = some (late, s') → Run (Steps step) start late s' := by
  induction events with
  | nil =>
      intro past late s s' run played
      cases played
      exact run
  | cons e events ih =>
      intro past late s s' run played
      unfold replay at played
      cases move : step s e with
      | none => simp [move] at played
      | some next =>
          rw [move] at played
          exact ih (.step run move) played

end QuantumJobs

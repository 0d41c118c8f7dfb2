import QuantumJobs.Proofs.CounterClock

/-!
# SoleCaller — a handle that one caller uses

If only one caller uses a handle, it finds the counter empty whenever it comes, and the job has not
ended while it is there.  A deadline that passes then leaves nothing behind: the counter is as it
was when it was opened.
-/

namespace QuantumJobs
namespace Counter

variable {c c' : Counter} {e : Counter.Event} {reply : Option (Nat × Reply)} {h : Handle}
  {caller : Nat} {past : Past Counter.Event (Nat × Reply)}

/-- A counter that nobody is at. -/
theorem eq_opened_of_nobody (nobody : ∀ call s, ¬ c.Has call s) : c = opened c.handle := by
  obtain ⟨handle, service, queue, coming⟩ := c
  have free : service = none := by
    cases service with
    | none => rfl
    | some s =>
        obtain ⟨call, demand, work⟩ := s
        cases work with
        | resting => exact absurd rfl (nobody call (.resting demand))
        | checking => exact absurd rfl (nobody call (.checking demand))
  have noQueue : queue = [] :=
    List.eq_nil_iff_forall_not_mem.2 fun w here => nobody w.1 (.queued w.2) here
  have noneComing : coming = [] :=
    List.eq_nil_iff_forall_not_mem.2 fun w here => nobody w.1 (.coming w.2) here
  rw [free, noQueue, noneComing]
  rfl

/-- The handle is used by one caller. -/
structure Sole (h : Handle) (caller : Nat) (past : Past Counter.Event (Nat × Reply)) (c : Counter) :
    Prop where
  agrees : c.Agrees past
  nobodyElse : ∀ call s, call ≠ caller → ¬ c.Has call s
  /-- While the caller is at the counter the job has not ended. -/
  unsettled : ∀ s, c.Has caller s → c.handle.outcome = none
  same : c.handle.outcome = none → c.handle = h

theorem sole_opened (h : Handle) (caller : Nat) : Sole h caller [] (opened h) where
  agrees := agrees_opened h
  nobodyElse _ s _ := not_has_of_absent rfl s
  unsettled s has := absurd has (not_has_of_absent rfl s)
  same _ := rfl

/-- A handle that has no outcome after a move is the handle before it. -/
theorem Moves.settles_only (move : c.Moves e reply c') (unsettled : c'.handle.outcome = none) :
    c'.handle = c.handle := by
  rcases move.handle_eq with same | ⟨found, settled⟩
  · exact same
  · rw [settled] at unsettled ⊢
    cases ends : found.outcome? with
    | none => exact Handle.settle_of_outcome?_none ends
    | some o =>
        have resolved := Handle.isResolved_resolve c.handle o
        rw [← show c.handle.settle found = c.handle.resolve o by simp [Handle.settle, ends],
          Handle.isResolved, unsettled] at resolved
        cases resolved

theorem Sole.step (sole : Sole h e.call past c) (move : c.Moves e reply c') :
    Sole h e.call ((e, reply) :: past) c' where
  agrees := sole.agrees.step move
  nobodyElse call s other has :=
    sole.nobodyElse call s other ((move.has_other (fun same => other same.symm) s).1 has)
  unsettled := by
    intro s has
    have stands := sole.agrees.stands_own move s has
    cases move with
    | greets _ _ => exact sole.unsettled s has
    | arrives _ known => exact (Backend.known?_eq_none.1 known).1
    | @joins call demand found => exact sole.unsettled (.coming demand) found
    | @dismisses call demand rest o free first settled =>
        -- The job has ended, but it has not as long as the caller is in the queue.
        have queued : c.Has call (.queued demand) := by simp [Has, first]
        rw [sole.unsettled (.queued demand) queued] at settled
        cases settled
    | serves _ _ unsettled => exact unsettled
    | @wakes call demand busy => exact sole.unsettled (.resting demand) busy
    | ends _ _ =>
        cases stands
        exact has.elim
    | turns _ _ _ =>
        cases stands
        exact has.elim
    | rests _ _ unsettled => exact unsettled
    | drops => exact absurd has (not_has_without _ s)
    | expires _ => exact absurd has (not_has_without _ s)
  same unsettled := by
    -- An outcome is never taken back, so there was none before either.
    have before := move.settles_only unsettled
    rw [before] at unsettled ⊢
    exact sole.same unsettled

theorem sole_of_run (run : Run (Steps step) (opened h) past c)
    (only : ∀ x ∈ past, x.1.call = caller) : Sole h caller past c := by
  induction run with
  | start => exact sole_opened h caller
  | @step past c c' e reply _ move ih =>
      have before := ih fun x here => only x (List.mem_cons_of_mem _ here)
      obtain rfl : e.call = caller := only (e, reply) (List.mem_cons_self ..)
      exact before.step (moves_of_step move)

/-- Whenever the wait of the only caller is late, it leaves the counter as it has found it. -/
theorem opened_of_expire {σ : Type} {past : Past (Live.Event σ) (Nat × Reply)} {l l' : Live σ}
    (run : Run Live.Moves (Live.opened h) past l) (only : ∀ x ∈ Live.turns past, x.1.call = caller)
    (move : l.Moves (.turn (.expire caller)) reply l') : l' = .opened h := by
  have sole := sole_of_run (Clocked.counter_run run) only
  cases move with
  | @turns _ c _ b _ move =>
      have move := moves_of_step move
      have after := sole.step (e := .expire caller) move
      cases move with
      | expires timed =>
          have here : ∃ s, l.counter.Has caller s := by
            rcases has_of_demandOf? timed with has | has | has
            · exact ⟨_, has⟩
            · exact ⟨_, has⟩
            · exact ⟨_, has⟩
          obtain ⟨s, has⟩ := here
          have same := sole.same (sole.unsettled s has)
          have nobody : ∀ call s, ¬ (l.counter.without caller).Has call s := by
            intro call s
            by_cases own : call = caller
            · rw [own]
              exact not_has_without caller s
            · exact after.nobodyElse call s own
          have free : l.counter.without caller = opened h := by
            rw [eq_opened_of_nobody nobody]
            exact congrArg opened same
          have noCheck : (l.follow b (opened h)).check = none := by
            by_cases idle : (opened h).service = l.counter.service
            · -- Nobody was served, so there was no check under way.
              cases underWay : l.check with
              | none => simp [Live.follow, underWay, Live.inCheck, opened]
              | some d =>
                  have checks := (Live.agrees_of_run h run).served d underWay
                  obtain ⟨_, _, busy⟩ := Live.inCheck_iff.1 checks
                  rw [busy] at idle
                  cases idle
            · simp only [Live.follow, if_neg idle]
              rfl
          rw [free]
          exact congrArg (Live.mk (opened h)) noCheck

end Counter
end QuantumJobs

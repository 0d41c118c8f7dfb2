import QuantumJobs.Proofs.CheckUnderWay

/-!
# CounterClock — the live counter under a clock

Two things take time at a counter: a rest, and the answer to a request of the check under way.  All
else happens at once.  The clock goes on only while no call can move, and a rest is as long as the
delay that the call goes on with: the handle's initial delay when a wait is served, and afterwards
what its last check has found.  How long a request takes is arbitrary.
-/

namespace QuantumJobs

variable {σ : Type}

namespace Counter

structure Clocked (σ : Type) where
  live : Live σ
  now : Span
  /-- The moment at which the rest under way ends. -/
  till : Span

namespace Clocked

inductive Event (σ : Type)
  /-- Something happens at the counter, or the check under way goes on. -/
  | act (e : Live.Event σ)
  /-- Time passes. -/
  | pass (length : Span)

abbrev History (σ : Type) := Past (Event σ) (Nat × Reply)

def opened (h : Handle) (start : Span) : Clocked σ := ⟨.opened h, start, start⟩

/-- The delay that a wait goes on with after an event. -/
def delayAfter (h : Handle) : Live.Event σ → Option Span
  | .turn (.serve _) => some h.initialDelay
  | .turn (.find _ (.pending next)) => some next
  | _ => none

/-- The end of the rest that follows an event, or else of the one under way. -/
def tillAfter (s : Clocked σ) (e : Live.Event σ) : Span :=
  match delayAfter s.live.counter.handle e with
  | some delay => s.now + delay.asRest
  | none => s.till

/-- For how long no call moves. -/
inductive Idle (s : Clocked σ) (length : Span) : Prop where
  /-- The call that is served rests, and the others queue behind it. -/
  | rest {call : Nat} {demand : Demand} :
      s.live.counter.coming = [] → s.live.counter.service = some ⟨call, demand, .resting⟩ →
        s.now + length ≤ s.till → Idle s length
  /-- A request of the check under way is in flight. -/
  | answer {r : Request} : s.live.counter.coming = [] → s.live.sent? = some r → Idle s length
  | nobody :
      s.live.counter.coming = [] → s.live.counter.service = none → s.live.counter.queue = [] →
        Idle s length

inductive Moves (s : Clocked σ) : Event σ → Option (Nat × Reply) → Clocked σ → Prop where
  /-- No rest is cut short. -/
  | acts {e : Live.Event σ} {reply : Option (Nat × Reply)} {l : Live σ} :
      s.live.Moves e reply l → (∀ call, e = .turn (.wake call) → s.till ≤ s.now) →
        Moves s (.act e) reply ⟨l, s.now, s.tillAfter e⟩
  | passes {length : Span} : s.Idle length →
      Moves s (.pass length) none { s with now := s.now + length }

/-! ## What a history says -/

/-- What has happened, without its times. -/
def acts : History σ → Past (Live.Event σ) (Nat × Reply)
  | [] => []
  | (.act e, reply) :: before => (e, reply) :: acts before
  | (.pass _, _) :: before => acts before

/-- What has happened at the counter. -/
def turns (past : History σ) : Past Counter.Event (Nat × Reply) := Live.turns (acts past)

/-- The time that has passed. -/
def passed : History σ → Span
  | [] => .zero
  | (.pass length, _) :: before => passed before + length
  | (.act _, _) :: before => passed before

/-- The checks that have come to an end, and when since the start, the oldest first. -/
def checked : History σ → List (Span × Check)
  | [] => []
  | (.act (.turn (.find _ found)), _) :: before => checked before ++ [(passed before, found)]
  | _ :: before => checked before

theorem turns_append (late early : History σ) :
    turns (late ++ early) = turns late ++ turns early := by
  induction late with
  | nil => rfl
  | cons newest late ih =>
      rcases newest with ⟨(e | cue) | length, reply⟩
      · exact congrArg _ ih
      · exact ih
      · exact ih

/-- As long as nothing happens at the counter, no check ends. -/
theorem checked_append {late early : History σ} (untold : turns late = []) :
    checked (late ++ early) = checked early := by
  induction late with
  | nil => rfl
  | cons newest late ih =>
      rcases newest with ⟨(e | cue) | length, reply⟩
      · cases untold
      · exact ih untold
      · exact ih untold

variable {past : History σ} {s s' : Clocked σ} {e : Event σ} {reply : Option (Nat × Reply)}

/-- Without its times a history is one of the live counter. -/
theorem live_run (run : Run Moves s past s') : Run Live.Moves s.live (acts past) s'.live := by
  induction run with
  | start => exact .start
  | step _ move ih =>
      cases move with
      | acts move _ => exact .step ih move
      | passes _ => exact ih

theorem counter_run {l l' : Live σ} {past : Past (Live.Event σ) (Nat × Reply)}
    (run : Run Live.Moves l past l') :
    Run (Steps Counter.step) l.counter (Live.turns past) l'.counter := by
  induction run with
  | start => exact .start
  | step _ move ih =>
      cases move with
      | turns _ _ move => exact .step ih move
      | proceeds _ _ => exact ih

theorem turns_run (run : Run Moves s past s') :
    Run (Steps Counter.step) s.live.counter (turns past) s'.live.counter :=
  counter_run (live_run run)

theorem agrees_of_run {h : Handle} {start : Span} (run : Run Moves (opened h start) past s) :
    s.live.Agrees (acts past) :=
  Live.agrees_of_run h (live_run run)

/-- Only the passing of time moves the clock. -/
theorem now_of_run (run : Run Moves s past s') :
    s'.now.nanos = s.now.nanos + (passed past).nanos := by
  induction run with
  | start => rfl
  | step _ move ih =>
      cases move with
      | acts _ _ => exact ih
      | @passes length _ =>
          show _ + length.nanos = _ + (_ + length.nanos)
          rw [ih, Nat.add_assoc]

theorem passed_of_run {h : Handle} (run : Run Moves (opened h .zero) past s) :
    passed past = s.now := by
  apply Span.eq_of_nanos
  rw [now_of_run run]
  exact (Nat.zero_add _).symm

/-- An event at the counter happens as soon as a rest that it ends is over and a check that it ends
has come to its end. -/
theorem moves_of_turn (b : Backend σ) {e : Counter.Event} {c : Counter}
    {check : Option (Dialogue σ Check)} {till : Span}
    (step : s.live.counter.step e = some (c, reply))
    (rested : ∀ call, e = .wake call → s.till ≤ s.now)
    (done : ∀ call found, e = .find call found → s.live.check = some (.done found))
    (follows : (s.live.follow b c).check = check) (lasts : s.tillAfter (.turn e) = till) :
    s.Moves (.act (.turn e)) reply ⟨⟨c, check⟩, s.now, till⟩ := by
  cases lasts
  refine .acts (Live.moves_of_turn b step done follows) ?_
  intro call same
  exact rested call (Live.Event.turn.inj same)

/-! ## Checks that are run -/

/-- Nothing keeps a check under way from coming to its end. -/
theorem run_of_heeds {d d' : Dialogue σ Check} (course : Dialogue.Heeds d d') :
    ∀ {s : Clocked σ}, s.live.check = some d →
      ∃ late, turns late = [] ∧
        Run Moves s late { s with live := { s.live with check := some d' } } := by
  induction course with
  | refl d =>
      intro s underWay
      refine ⟨[], rfl, ?_⟩
      rw [← underWay]
      exact .start
  | @step d d' d'' cue heeded _ ih =>
      intro s underWay
      have first : Run Moves s [(.act (.proceed cue), none)]
          { s with live := { s.live with check := some d' } } :=
        .step .start (.acts (.proceeds underWay heeded) (by simp))
      obtain ⟨late, untold, rest⟩ :=
        ih (s := { s with live := { s.live with check := some d' } }) rfl
      refine ⟨late ++ [(.act (.proceed cue), none)], ?_, first.trans rest⟩
      rw [turns_append, untold]
      rfl

end Clocked
end Counter
end QuantumJobs

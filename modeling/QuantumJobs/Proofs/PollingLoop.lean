import QuantumJobs.Proofs.Exchanges
import QuantumJobs.Proofs.PollVerdict
import QuantumJobs.Proofs.Twins

/-!
# PollingLoop — a wait is a loop of polls

A caller may wait by itself: it rests for the initial delay and polls, and as long as a poll says
that the job is pending it rests for the time that the poll says and polls again.  A wait does the
same without letting go of the handle in between.  It looks at the handle's outcome and at the
backend's name only once, though, so it answers for another backend's job without any rest.
-/

namespace QuantumJobs

variable {σ τ : Type}

/-! ## What a poll answers -/

namespace Poll

/-- The answer with which a poll ends the loop. -/
def verdict : Outcome Poll → Option (Outcome SampleResult)
  | .ok (.pending _) => none
  | .ok (.done result) => some (.ok result)
  | .error fault => some (.error fault)

/-- The delay after which the loop goes on. -/
def delay? : Outcome Poll → Option Span
  | .ok (.pending next) => some next
  | _ => none

end Poll

/-- A poll ends the loop with what a check ends a wait with. -/
theorem Check.verdict_poll (c : Check) : Poll.verdict c.poll = Wait.verdict c := by
  cases c <;> rfl

/-- What ends the loop names no delay. -/
theorem Poll.delay?_of_verdict {answer : Outcome Poll} {told : Outcome SampleResult}
    (ends : verdict answer = some told) : delay? answer = none := by
  rcases answer with fault | next | result
  · rfl
  · cases ends
  · rfl

namespace Wait

/-- How long rests take, one after another. -/
def rests (delays : List Span) : Span :=
  delays.foldr (fun delay total => delay.asRest + total) .zero

theorem rests_cons (delay : Span) (delays : List Span) :
    rests (delay :: delays) = delay.asRest + rests delays := rfl

theorem nanos_rests_singleton (delay : Span) : (rests [delay]).nanos = delay.asRest.nanos :=
  Nat.add_zero _

variable (b : Backend σ) (net : Network τ) (now : Instant)

/-! ## The loop -/

/-- Rests for a time and polls. -/
def pollRound (delay : Span) (w : Wait σ τ) : Outcome Poll × Wait σ τ :=
  let ((answer, handle), line) := (b.poll w.handle).run net now w.line
  (answer, ⟨w.elapsed + delay.asRest, handle, line⟩)

/-- Rests and polls until a poll ends the loop, for at most `rounds` polls.  The answers of the
polls are listed. -/
def pollLoop : Nat → Span → Wait σ τ → List (Outcome Poll) × Wait σ τ
  | 0, _, w => ([], w)
  | rounds + 1, delay, w =>
      match pollRound b net now delay w with
      | (.ok (.pending next), w) =>
          let (answers, w) := pollLoop rounds next w
          (.ok (.pending next) :: answers, w)
      | (answer, w) => ([answer], w)

/-- The polls of a caller that waits by itself. -/
def polls (rounds : Nat) (h : Handle) (line : Line σ τ) : List (Outcome Poll) × Wait σ τ :=
  pollLoop b net now rounds h.initialDelay ⟨.zero, h, line⟩

/-! ## The checks of a wait -/

/-- A check: when it is made, what it finds and what is sent for it. -/
structure Visit where
  time : Span
  found : Check
  sent : List Request

/-- The check that a wait makes after a rest. -/
def visit (delay : Span) (w : Wait σ τ) : Visit where
  time := w.elapsed + delay.asRest
  found := (round b net now delay w).1
  sent := ((b.check w.handle).exchanges net now w.line).map (·.request)

/-- The checks of a wait from a rest on, at most `rounds` of them. -/
def visitsFrom : Nat → Span → Wait σ τ → List Visit
  | 0, _, _ => []
  | rounds + 1, delay, w =>
      visit b net now delay w ::
        match round b net now delay w with
        | (.pending next, w) => visitsFrom rounds next w
        | _ => []

/-- The checks of a wait for a handle's job. -/
def visits (rounds : Nat) (h : Handle) (line : Line σ τ) : List Visit :=
  visitsFrom b net now rounds h.initialDelay ⟨.zero, h, line⟩

variable {b net now} {delay next : Span} {w : Wait σ τ} {answer : Outcome SampleResult}

/-! ## One round -/

/-- A check either finds the job unfinished or ends the wait. -/
theorem pending_or_verdict (c : Check) :
    (∃ next, c = .pending next) ∨ ∃ answer, verdict c = some answer := by
  cases c with
  | pending next => exact .inl ⟨next, rfl⟩
  | done result => exact .inr ⟨_, rfl⟩
  | failed fault => exact .inr ⟨_, rfl⟩
  | interrupted fault => exact .inr ⟨_, rfl⟩

theorem loop_pending (rounds : Nat) (found : (round b net now delay w).1 = .pending next) :
    loop b net now (rounds + 1) delay w
      = loop b net now rounds next (round b net now delay w).2 := by
  rw [loop]
  rcases both : round b net now delay w with ⟨c, w'⟩
  rw [both] at found
  cases found
  rfl

theorem loop_ends (rounds : Nat) (ends : verdict (round b net now delay w).1 = some answer) :
    loop b net now (rounds + 1) delay w = (some answer, (round b net now delay w).2) := by
  rw [loop]
  rcases both : round b net now delay w with ⟨c, w'⟩
  rw [both] at ends
  cases c with
  | pending next => cases ends
  | done result => exact congrArg (·, w') ends
  | failed fault => exact congrArg (·, w') ends
  | interrupted fault => exact congrArg (·, w') ends

theorem visitsFrom_pending (rounds : Nat) (found : (round b net now delay w).1 = .pending next) :
    visitsFrom b net now (rounds + 1) delay w
      = visit b net now delay w
          :: visitsFrom b net now rounds next (round b net now delay w).2 := by
  rw [visitsFrom]
  rcases both : round b net now delay w with ⟨c, w'⟩
  rw [both] at found
  cases found
  rfl

theorem visitsFrom_ends (rounds : Nat) (ends : verdict (round b net now delay w).1 = some answer) :
    visitsFrom b net now (rounds + 1) delay w = [visit b net now delay w] := by
  rw [visitsFrom]
  rcases both : round b net now delay w with ⟨c, w'⟩
  rw [both] at ends
  cases c with
  | pending next => cases ends
  | done result => rfl
  | failed fault => rfl
  | interrupted fault => rfl

theorem pollLoop_pending (rounds : Nat)
    (answered : (pollRound b net now delay w).1 = .ok (.pending next)) :
    pollLoop b net now (rounds + 1) delay w
      = (.ok (.pending next) :: (pollLoop b net now rounds next (pollRound b net now delay w).2).1,
          (pollLoop b net now rounds next (pollRound b net now delay w).2).2) := by
  rw [pollLoop]
  rcases both : pollRound b net now delay w with ⟨a, w'⟩
  rw [both] at answered
  cases answered
  rfl

theorem pollLoop_ends (rounds : Nat)
    (ends : Poll.verdict (pollRound b net now delay w).1 = some answer) :
    pollLoop b net now (rounds + 1) delay w
      = ([(pollRound b net now delay w).1], (pollRound b net now delay w).2) := by
  rw [pollLoop]
  rcases both : pollRound b net now delay w with ⟨(fault | next | result), w'⟩
  · rfl
  · rw [both] at ends
    cases ends
  · rfl

theorem elapsed_round (delay : Span) (w : Wait σ τ) :
    (round b net now delay w).2.elapsed = w.elapsed + delay.asRest := rfl

theorem sent_round (delay : Span) (w : Wait σ τ) :
    (round b net now delay w).2.line.sent = w.line.sent ++ (visit b net now delay w).sent :=
  Dialogue.sent_run (b.check w.handle) w.line

/-- A check that finds the job unfinished leaves the handle as it is. -/
theorem handle_pending (found : (round b net now delay w).1 = .pending next) :
    (round b net now delay w).2.handle = w.handle := by
  show w.handle.settle (round b net now delay w).1 = w.handle
  rw [found]
  exact Handle.settle_of_outcome?_none rfl

/-- A round of a backend's own pending job checks as a poll does. -/
theorem pollRound_of_own (pending : w.handle.outcome = none)
    (own : b.name w.line.state = w.handle.backend) (delay : Span) :
    pollRound b net now delay w
      = ((round b net now delay w).1.poll, (round b net now delay w).2) := by
  simp [pollRound, round, Backend.poll, Handle.known?, pending, own]

theorem minInterval_le_asRest (least : minInterval ≤ delay) : minInterval ≤ delay.asRest :=
  Span.le_asRest (by decide) least

/-- A job that is found unfinished is checked again after the least interval at the earliest. -/
theorem minInterval_le_of_pending (found : (round b net now delay w).1 = .pending next) :
    minInterval ≤ next := by
  cases Backend.finds_iff.2 found with
  | notDone _ _ => exact Span.le_max_right _ _

/-! ## The backend's name -/

section Names

/-- A login keeps the backend's name. -/
def KeepsName (b : Backend σ) (net : Network τ) (now : Instant) : Prop :=
  ∀ line : Line σ τ, b.name (b.refresh.run net now line).2.state = b.name line.state

variable (keeps : KeepsName b net now)

include keeps

theorem KeepsName.fetched {path : String} {line line' : Line σ τ} {answer : Outcome Json}
    (fetched : b.Fetched net now path line answer line') :
    b.name line'.state = b.name line.state := by
  cases fetched with
  | accepted got _ =>
      cases got
      rfl
  | notRefreshed got refreshed =>
      obtain rfl : (b.get net path line).2 = _ := congrArg Prod.snd got
      have kept := keeps (b.get net path line).2
      rw [refreshed] at kept
      exact kept
  | repeated got refreshed again =>
      obtain rfl : (b.get net path line).2 = _ := congrArg Prod.snd got
      obtain rfl : (b.get net path _).2 = _ := congrArg Prod.snd again
      have kept := keeps (b.get net path line).2
      rw [refreshed] at kept
      exact kept

theorem KeepsName.pending (found : (round b net now delay w).1 = .pending next) :
    b.name (round b net now delay w).2.line.state = b.name w.line.state := by
  have finds := Backend.finds_iff.2 found
  cases finds with
  | notDone fetched unfinished =>
      show b.name ((b.check w.handle).run net now w.line).2.state = _
      rw [Backend.run_check_of_status fetched, unfinished]
      exact keeps.fetched fetched

end Names

/-! ## The wait and the loop -/

section Loop

variable (rounds : Nat)

/-- A wait of any length is at each check where the loop is after the poll. -/
theorem loop_eq_pollLoop (keeps : KeepsName b net now) :
    ∀ (delay : Span) {w : Wait σ τ}, w.handle.outcome = none →
      b.name w.line.state = w.handle.backend →
        loop b net now rounds delay w
            = ((pollLoop b net now rounds delay w).1.findSome? Poll.verdict,
                (pollLoop b net now rounds delay w).2) ∧
          (pollLoop b net now rounds delay w).1
            = (visitsFrom b net now rounds delay w).map (·.found.poll) := by
  -- As long as the job is pending, the handle and the backend's name stay as they are, so the next
  -- poll makes the check that the wait makes.
  induction rounds with
  | zero =>
      intro delay w _ _
      exact ⟨rfl, rfl⟩
  | succ rounds ih =>
      intro delay w pending own
      have polled : pollRound b net now delay w
          = ((round b net now delay w).1.poll, (round b net now delay w).2) :=
        pollRound_of_own pending own delay
      rcases pending_or_verdict (round b net now delay w).1 with ⟨next, found⟩ | ⟨answer, ends⟩
      · have answered : pollRound b net now delay w
            = (.ok (.pending next), (round b net now delay w).2) := by
          rw [polled, found]
          rfl
        have same := handle_pending found
        have stillOwn : b.name (round b net now delay w).2.line.state
            = (round b net now delay w).2.handle.backend := by
          rw [keeps.pending found, same, own]
        obtain ⟨equal, listed⟩ := ih next (by rw [same]; exact pending) stillOwn
        rw [loop_pending rounds found, visitsFrom_pending rounds found,
          pollLoop_pending rounds (congrArg Prod.fst answered), answered]
        refine ⟨equal, ?_⟩
        rw [listed, List.map_cons]
        exact congrArg (· :: _) (congrArg Check.poll found).symm
      · have ended : Poll.verdict (round b net now delay w).1.poll = some answer := by
          rw [Check.verdict_poll, ends]
        rw [loop_ends rounds ends, visitsFrom_ends rounds ends,
          pollLoop_ends rounds (by rw [polled]; exact ended), polled]
        refine ⟨?_, rfl⟩
        rw [List.findSome?_singleton, ended]

/-- A wait that is answered has taken its rests: the one before its first check and one for each
check that has found the job unfinished. -/
theorem elapsed_of_answered :
    ∀ (delay : Span) {w w' : Wait σ τ}, loop b net now rounds delay w = (some answer, w') →
      w'.elapsed.nanos = w.elapsed.nanos
        + (rests (delay :: ((visitsFrom b net now rounds delay w).map (·.found.poll)).filterMap
            Poll.delay?)).nanos := by
  induction rounds with
  | zero =>
      intro delay w w' ended
      cases ended
  | succ rounds ih =>
      intro delay w w' ended
      rcases pending_or_verdict (round b net now delay w).1 with ⟨next, found⟩ | ⟨other, ends⟩
      · rw [loop_pending rounds found] at ended
        have told : Poll.delay? (visit b net now delay w).found.poll = some next :=
          congrArg (fun c => Poll.delay? c.poll) found
        rw [visitsFrom_pending rounds found, List.map_cons, List.filterMap_cons_some told,
          rests_cons, ih next ended, elapsed_round, Span.nanos_add, Span.nanos_add, Nat.add_assoc]
      · rw [loop_ends rounds ends] at ended
        cases ended
        have told : Poll.delay? (visit b net now delay w).found.poll = none := by
          apply Poll.delay?_of_verdict
          rw [Check.verdict_poll]
          exact ends
        rw [visitsFrom_ends rounds ends, List.map_singleton, List.filterMap_cons_none told,
          List.filterMap_nil, nanos_rests_singleton, elapsed_round, Span.nanos_add]

/-- What a wait has sent was sent for its checks. -/
theorem sent_loop :
    ∀ (delay : Span) (w : Wait σ τ), (loop b net now rounds delay w).2.line.sent
      = w.line.sent ++ (visitsFrom b net now rounds delay w).flatMap (·.sent) := by
  induction rounds with
  | zero =>
      intro delay w
      simp [loop, visitsFrom]
  | succ rounds ih =>
      intro delay w
      rcases pending_or_verdict (round b net now delay w).1 with ⟨next, found⟩ | ⟨answer, ends⟩
      · rw [loop_pending rounds found, visitsFrom_pending rounds found, ih, sent_round,
          List.flatMap_cons, List.append_assoc]
      · rw [loop_ends rounds ends, visitsFrom_ends rounds ends, sent_round, List.flatMap_singleton]

/-- No check is made before the first rest is over. -/
theorem time_of_visit :
    ∀ (delay : Span) {w : Wait σ τ}, ∀ v ∈ visitsFrom b net now rounds delay w,
      w.elapsed + delay.asRest ≤ v.time := by
  induction rounds with
  | zero =>
      intro delay w v here
      cases here
  | succ rounds ih =>
      intro delay w v here
      rcases pending_or_verdict (round b net now delay w).1 with ⟨next, found⟩ | ⟨answer, ends⟩
      · rw [visitsFrom_pending rounds found] at here
        rcases List.mem_cons.1 here with rfl | later
        · exact Nat.le_refl _
        · exact Nat.le_trans (Nat.le_add_right _ _) (ih next v later)
      · rw [visitsFrom_ends rounds ends] at here
        rw [List.mem_singleton.1 here]
        exact Nat.le_refl _

theorem asRest_le_time_of_visits (h : Handle) (line : Line σ τ) :
    ∀ v ∈ visits b net now rounds h line, h.initialDelay.asRest ≤ v.time := by
  intro v here
  have after := time_of_visit rounds h.initialDelay v here
  rwa [Span.le_def, Span.nanos_add, show Span.zero.nanos = 0 from rfl, Nat.zero_add] at after

end Loop

section Calls

variable {h : Handle} {line : Line σ τ} (pending : h.outcome = none)

include pending

theorem run_of_own (own : b.name line.state = h.backend) (rounds : Nat) :
    run b net now rounds h line = loop b net now rounds h.initialDelay ⟨.zero, h, line⟩ := by
  simp [run, Handle.known?, pending, own]

theorem run_of_foreign (foreign : b.name line.state ≠ h.backend) (rounds : Nat) :
    run b net now rounds h line
      = (some (.error (h.foreign (b.name line.state))), ⟨.zero, h, line⟩) := by
  simp [run, Handle.known?, pending, foreign]

/-- The loop notices only after its first rest that the backend is the wrong one. -/
theorem polls_of_foreign (foreign : b.name line.state ≠ h.backend) (rounds : Nat) :
    polls b net now (rounds + 1) h line
      = ([.error (h.foreign (b.name line.state))], ⟨.zero + h.initialDelay.asRest, h, line⟩) := by
  have polled : pollRound b net now h.initialDelay ⟨.zero, h, line⟩
      = (.error (h.foreign (b.name line.state)), ⟨.zero + h.initialDelay.asRest, h, line⟩) := by
    simp [pollRound, Backend.poll, Handle.known?, pending, foreign, Except.map]
  unfold polls
  rw [pollLoop_ends rounds (by rw [polled]; rfl), polled]

/-- Through the job's own backend a wait and the loop are at the same place after every poll. -/
theorem run_eq_polls (keeps : KeepsName b net now) (own : b.name line.state = h.backend)
    (rounds : Nat) :
    run b net now rounds h line
        = ((polls b net now rounds h line).1.findSome? Poll.verdict,
            (polls b net now rounds h line).2) ∧
      (polls b net now rounds h line).1 = (visits b net now rounds h line).map (·.found.poll) := by
  rw [run_of_own pending own]
  exact loop_eq_pollLoop rounds keeps h.initialDelay pending own

/-- Through another backend both are told at some time that it is the wrong one. -/
theorem answered_iff_of_foreign (foreign : b.name line.state ≠ h.backend)
    (answer : Outcome SampleResult) (g : Handle) (line' : Line σ τ) :
    (∃ rounds time, run b net now rounds h line = (some answer, ⟨time, g, line'⟩)) ↔
      ∃ rounds time, (polls b net now rounds h line).1.findSome? Poll.verdict = some answer ∧
        (polls b net now rounds h line).2 = ⟨time, g, line'⟩ := by
  constructor
  · rintro ⟨rounds, time, ended⟩
    rw [run_of_foreign pending foreign] at ended
    cases ended
    -- The loop is told by its first poll.
    exact ⟨1, _, by rw [polls_of_foreign pending foreign]; exact ⟨rfl, rfl⟩⟩
  · rintro ⟨rounds, time, told, ended⟩
    cases rounds with
    | zero => cases told
    | succ rounds =>
        rw [polls_of_foreign pending foreign] at told ended
        cases told
        cases ended
        exact ⟨0, .zero, run_of_foreign pending foreign 0⟩

/-- A wait for a pending job comes to the same end as the loop, with the same handle and having sent
the same, and has no end if the loop has none.  Through the job's own backend it does so after the
same number of checks and at the same time, which is that of its rests: the first is as long as the
initial delay and each further one as the poll before it has said, both in the whole milliseconds
and with the bound that rests have.  All that is sent is sent for the checks, and no check is made
before the first rest is over.  A backend that does not own the job is told so at once, and nothing
is sent. -/
theorem waits_as_it_polls (keeps : KeepsName b net now) :
    (∀ answer g line',
        (∃ rounds time, run b net now rounds h line = (some answer, ⟨time, g, line'⟩)) ↔
          ∃ rounds time, (polls b net now rounds h line).1.findSome? Poll.verdict = some answer ∧
            (polls b net now rounds h line).2 = ⟨time, g, line'⟩) ∧
      (b.name line.state = h.backend → ∀ rounds,
        run b net now rounds h line
            = ((polls b net now rounds h line).1.findSome? Poll.verdict,
                (polls b net now rounds h line).2) ∧
          (∀ answer, (run b net now rounds h line).1 = some answer →
            (run b net now rounds h line).2.elapsed
              = rests (h.initialDelay ::
                  (polls b net now rounds h line).1.filterMap Poll.delay?)) ∧
          (polls b net now rounds h line).1
            = (visits b net now rounds h line).map (·.found.poll) ∧
          (run b net now rounds h line).2.line.sent
            = line.sent ++ (visits b net now rounds h line).flatMap (·.sent) ∧
          ∀ v ∈ visits b net now rounds h line, h.initialDelay.asRest ≤ v.time) ∧
      (b.name line.state ≠ h.backend → ∀ rounds,
        run b net now rounds h line
          = (some (.error (h.foreign (b.name line.state))), ⟨.zero, h, line⟩)) := by
  refine ⟨?_, ?_, run_of_foreign pending⟩
  · intro answer g line'
    by_cases own : b.name line.state = h.backend
    · have agree : ∀ rounds time,
          run b net now rounds h line = (some answer, ⟨time, g, line'⟩) ↔
            (polls b net now rounds h line).1.findSome? Poll.verdict = some answer ∧
              (polls b net now rounds h line).2 = ⟨time, g, line'⟩ := by
        intro rounds time
        rw [(run_eq_polls pending keeps own rounds).1, Prod.mk.injEq]
      simp only [agree]
    · exact answered_iff_of_foreign pending own answer g line'
  · intro own rounds
    obtain ⟨equal, listed⟩ := run_eq_polls pending keeps own rounds
    refine ⟨equal, ?_, listed, ?_, ?_⟩
    · intro answer answered
      have ended : loop b net now rounds h.initialDelay ⟨.zero, h, line⟩
          = (some answer, (run b net now rounds h line).2) := by
        rw [← run_of_own pending own, ← answered]
      apply Span.eq_of_nanos
      rw [elapsed_of_answered rounds h.initialDelay ended, listed]
      exact Nat.zero_add _
    · rw [run_of_own pending own]
      exact sent_loop rounds h.initialDelay _
    · exact asRest_le_time_of_visits rounds h line

end Calls

/-! ## Jobs that finish -/

/-- A network that gives some answers and then says that the job is finished. -/
def finishingAfter (early : List (Outcome Json)) : Network Nat :=
  .inOrder fun i =>
    early[i]?.getD (.ok (.obj [("status", .str "finished"), ("status_code", .int 0)]))

/-- The job is still running, and should be checked again after some milliseconds. -/
def running (millis : Nat) : Json :=
  .obj [("poll_ms", .int millis), ("status", .str "running")]

def freshLine (name : String) : Line Plain.Session Nat := ⟨Plain.Session.fresh name, 0, []⟩

theorem keepsName_plain (net : Network τ) (now : Instant) : KeepsName Plain.backend net now := by
  intro line
  show ((Plain.Session.refresh.run net now line).2.state).name = line.state.name
  unfold Plain.Session.refresh
  rw [Dialogue.run_bind, Dialogue.run_state]
  by_cases refused : line.state.config.get? "refresh" = some "fail"
  · rw [if_pos refused]
    rfl
  · rw [if_neg refused]
    rfl

/-- A job that is done when it is checked for the second time is waited for twenty-five milliseconds
longer than for its first check. -/
theorem waits_as_it_polls_twice :
    Backend.pendingJob.outcome = none ∧
      KeepsName Plain.backend (finishingAfter [.ok (running 25)]) ⟨0, 0, 0⟩ ∧
      (run Plain.backend (finishingAfter [.ok (running 25)]) ⟨0, 0, 0⟩ 2 Backend.pendingJob
          (freshLine "plain")).1.isSome ∧
      (run Plain.backend (finishingAfter [.ok (running 25)]) ⟨0, 0, 0⟩ 2 Backend.pendingJob
          (freshLine "plain")).2.elapsed = rests [.ofMillis 10, .ofMillis 25] := by
  have keeps := keepsName_plain (finishingAfter [.ok (running 25)]) ⟨0, 0, 0⟩
  obtain ⟨-, ownJob, -⟩ :=
    @waits_as_it_polls _ _ _ _ _ Backend.pendingJob (freshLine "plain") rfl keeps
  obtain ⟨-, lasts, -⟩ := ownJob rfl 2
  exact ⟨rfl, keeps, rfl, lasts _ rfl⟩

/-- A backend that takes another name when it logs in. -/
def selfRenaming : Backend Plain.Session :=
  { Plain.backend with
    refresh := do
      Dialogue.modify fun s => { s with name := "renamed" }
      return .ok () }

/-- A wait for another backend's job takes no time at all; rests are in whole milliseconds and not
longer than thirty years; and a backend that takes another name waits on where it may not poll. -/
theorem waits_unlike_polls :
    (run Plain.backend (finishingAfter []) ⟨0, 0, 0⟩ 1 Backend.pendingJob
        (freshLine "other")).2.elapsed ≠ Backend.pendingJob.initialDelay ∧
      (run Plain.backend (finishingAfter []) ⟨0, 0, 0⟩ 1
        { Backend.pendingJob with initialDelay := ⟨10500000⟩ } (freshLine "plain")).2.elapsed
          ≠ ⟨10500000⟩ ∧
      (run Plain.backend (finishingAfter [.ok (running 10000000000000)]) ⟨0, 0, 0⟩ 2
        Backend.pendingJob (freshLine "plain")).2.elapsed
          ≠ Backend.pendingJob.initialDelay + .ofMillis 10000000000000 ∧
      (∃ result, (run selfRenaming (finishingAfter [.error (.transport (some 401) "expired"),
        .ok (running 10)]) ⟨0, 0, 0⟩ 2 Backend.pendingJob (freshLine "plain")).1
          = some (.ok result)) ∧
      ∃ fault, (polls selfRenaming (finishingAfter [.error (.transport (some 401) "expired"),
        .ok (running 10)]) ⟨0, 0, 0⟩ 2 Backend.pendingJob
          (freshLine "plain")).1.findSome? Poll.verdict = some (.error fault) := by
  refine ⟨?_, ?_, ?_, ?_, ?_⟩
  · decide +kernel
  · decide +kernel
  · decide +kernel
  · exact ⟨_, rfl⟩
  · exact ⟨_, rfl⟩

end Wait
end QuantumJobs

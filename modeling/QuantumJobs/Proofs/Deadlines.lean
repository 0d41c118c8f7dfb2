import QuantumJobs.Proofs.PollingLoop
import QuantumJobs.Proofs.SoleCaller

/-!
# Deadlines — waiting until a deadline

A wait with a deadline is a wait that is dropped when a timer goes off.  If the wait is answered by
then, that is the answer; otherwise exactly those checks have been made that are due by then, and
the handle is as pending and as free as if nobody had waited.  The timer goes off on a whole
millisecond, the first that is not before the deadline.
-/

namespace QuantumJobs

variable {σ τ : Type} {b : Backend σ} {net : Network τ} {now : Instant}

namespace Wait

/-! ## Waits of different lengths -/

variable {delay next : Span} {w w' : Wait σ τ} {answer : Outcome SampleResult}

/-- More rounds do not change an answer. -/
theorem loop_add (more : Nat) :
    ∀ (rounds : Nat) (delay : Span) {w w' : Wait σ τ},
      loop b net now rounds delay w = (some answer, w') →
        loop b net now (rounds + more) delay w = (some answer, w') := by
  intro rounds
  induction rounds with
  | zero =>
      intro delay w w' ended
      cases ended
  | succ rounds ih =>
      intro delay w w' ended
      rw [Nat.add_right_comm]
      rcases pending_or_verdict (round b net now delay w).1 with ⟨next, found⟩ | ⟨other, ends⟩
      · rw [loop_pending rounds found] at ended
        rw [loop_pending (rounds + more) found]
        exact ih next ended
      · rw [loop_ends rounds ends] at ended
        rw [loop_ends (rounds + more) ends]
        exact ended

/-- The last check of a wait that is answered ends it. -/
theorem last_visit :
    ∀ (rounds : Nat) (delay : Span) {w w' : Wait σ τ},
      loop b net now rounds delay w = (some answer, w') →
        ∃ v ∈ visitsFrom b net now rounds delay w,
          v.time = w'.elapsed ∧ verdict v.found = some answer := by
  intro rounds
  induction rounds with
  | zero =>
      intro delay w w' ended
      cases ended
  | succ rounds ih =>
      intro delay w w' ended
      rcases pending_or_verdict (round b net now delay w).1 with ⟨next, found⟩ | ⟨other, ends⟩
      · rw [loop_pending rounds found] at ended
        obtain ⟨v, here, last⟩ := ih next ended
        rw [visitsFrom_pending rounds found]
        exact ⟨v, List.mem_cons_of_mem _ here, last⟩
      · rw [loop_ends rounds ends] at ended
        cases ended
        rw [visitsFrom_ends rounds ends]
        exact ⟨_, List.mem_singleton_self _, rfl, ends⟩

/-- The first checks of a wait find the job unfinished. -/
inductive Unanswered (b : Backend σ) (net : Network τ) (now : Instant) :
    Nat → Span → Wait σ τ → Prop where
  | start (delay : Span) (w : Wait σ τ) : Unanswered b net now 0 delay w
  | check {rounds : Nat} {delay next : Span} {w : Wait σ τ} :
      (round b net now delay w).1 = .pending next →
        Unanswered b net now rounds next (round b net now delay w).2 →
          Unanswered b net now (rounds + 1) delay w

namespace Unanswered

variable {rounds : Nat} {deadline : Span}

theorem loop_eq_none (unanswered : Unanswered b net now rounds delay w) :
    (loop b net now rounds delay w).1 = none := by
  induction unanswered with
  | start delay w => rfl
  | check found _ ih => rw [loop_pending _ found, ih]

theorem verdict_visit (unanswered : Unanswered b net now rounds delay w) :
    ∀ v ∈ visitsFrom b net now rounds delay w, verdict v.found = none := by
  induction unanswered with
  | start delay w =>
      intro v here
      cases here
  | check found _ ih =>
      intro v here
      rw [visitsFrom_pending _ found] at here
      rcases List.mem_cons.1 here with rfl | later
      · exact congrArg verdict found
      · exact ih v later

theorem handle (unanswered : Unanswered b net now rounds delay w) :
    (loop b net now rounds delay w).2.handle = w.handle := by
  induction unanswered with
  | start delay w => rfl
  | check found _ ih => rw [loop_pending _ found, ih, handle_pending found]

/-- A wait that is not answered has taken no longer than its last check. -/
theorem elapsed (unanswered : Unanswered b net now rounds delay w) (early : w.elapsed ≤ deadline)
    (due : ∀ v ∈ visitsFrom b net now rounds delay w, v.time ≤ deadline) :
    (loop b net now rounds delay w).2.elapsed ≤ deadline := by
  induction unanswered with
  | start delay w => exact early
  | check found _ ih =>
      rw [visitsFrom_pending _ found] at due
      rw [loop_pending _ found]
      refine ih (due _ (List.mem_cons_self ..)) ?_
      intro v later
      exact due v (List.mem_cons_of_mem _ later)

end Unanswered

/-- Many checks take long. -/
theorem Unanswered.takes_long {rounds : Nat} {deadline : Span}
    (unanswered : Unanswered b net now (rounds + 1) delay w)
    (due : ∀ v ∈ visitsFrom b net now (rounds + 1) delay w, v.time ≤ deadline) :
    w.elapsed.nanos + delay.asRest.nanos + rounds * minInterval.nanos ≤ deadline.nanos := by
  induction rounds generalizing delay w with
  | zero =>
      have first : visit b net now delay w ∈ visitsFrom b net now 1 delay w :=
        List.mem_cons_self ..
      rw [Nat.zero_mul, Nat.add_zero]
      exact due _ first
  | succ rounds ih =>
      cases unanswered with
      | @check _ _ next _ found rest =>
          rw [visitsFrom_pending _ found] at due
          have later := ih rest fun v here => due v (List.mem_cons_of_mem _ here)
          have least : minInterval.nanos ≤ next.asRest.nanos :=
            minInterval_le_asRest (minInterval_le_of_pending found)
          rw [elapsed_round, Span.nanos_add] at later
          rw [Nat.succ_mul]
          omega

/-! ## The wait with a deadline -/

section Until

variable {deadline : Span}

theorem loopUntil_late (rounds : Nat) (late : ¬ w.elapsed + delay.asRest ≤ deadline) :
    loopUntil b net now deadline (rounds + 1) delay w = (none, { w with elapsed := deadline }) := by
  rw [loopUntil, if_neg late]

theorem loopUntil_pending (rounds : Nat) (due : w.elapsed + delay.asRest ≤ deadline)
    (found : (round b net now delay w).1 = .pending next) :
    loopUntil b net now deadline (rounds + 1) delay w
      = loopUntil b net now deadline rounds next (round b net now delay w).2 := by
  rw [loopUntil, if_pos due]
  rcases both : round b net now delay w with ⟨c, w'⟩
  rw [both] at found
  cases found
  rfl

theorem loopUntil_ends (rounds : Nat) (due : w.elapsed + delay.asRest ≤ deadline)
    (ends : verdict (round b net now delay w).1 = some answer) :
    loopUntil b net now deadline (rounds + 1) delay w
      = (some answer, (round b net now delay w).2) := by
  rw [loopUntil, if_pos due]
  rcases both : round b net now delay w with ⟨c, w'⟩
  rw [both] at ends
  cases c with
  | pending next => cases ends
  | done result => exact congrArg (·, w') ends
  | failed fault => exact congrArg (·, w') ends
  | interrupted fault => exact congrArg (·, w') ends

/-- The checks of a wait that are due by the deadline are its first `made` ones. -/
def DueBy (b : Backend σ) (net : Network τ) (now : Instant) (deadline : Span) (made : Nat)
    (delay : Span) (w : Wait σ τ) : Prop :=
  ∀ rounds, (visitsFrom b net now (made + rounds) delay w).filter (fun v => v.time ≤ deadline)
    = visitsFrom b net now made delay w

/-- How a wait with a deadline ends. -/
inductive EndsBy (b : Backend σ) (net : Network τ) (now : Instant) (deadline : Span)
    (rounds : Nat) (delay : Span) (w : Wait σ τ) : Option (Outcome SampleResult) × Wait σ τ → Prop
  /-- It is answered in time. -/
  | answered {answer : Outcome SampleResult} {w' : Wait σ τ} :
      loop b net now rounds delay w = (some answer, w') → w'.elapsed ≤ deadline →
        EndsBy b net now deadline rounds delay w (some answer, w')
  /-- The deadline passes, and the next check would be due later. -/
  | expired {made : Nat} :
      Unanswered b net now made delay w → DueBy b net now deadline made delay w →
        EndsBy b net now deadline rounds delay w
          (none, { (loop b net now made delay w).2 with elapsed := deadline })
  /-- All rounds are used up before the deadline. -/
  | exhausted :
      Unanswered b net now rounds delay w →
        (∀ v ∈ visitsFrom b net now rounds delay w, v.time ≤ deadline) →
          EndsBy b net now deadline rounds delay w
            (none, { (loop b net now rounds delay w).2 with elapsed := deadline })

theorem dueBy_zero (late : ¬ w.elapsed + delay.asRest ≤ deadline) :
    DueBy b net now deadline 0 delay w := by
  intro rounds
  show _ = []
  rw [List.filter_eq_nil_iff]
  intro v here due
  exact late (Nat.le_trans (time_of_visit (0 + rounds) delay v here) (of_decide_eq_true due))

theorem DueBy.succ {made : Nat} (found : (round b net now delay w).1 = .pending next)
    (due : w.elapsed + delay.asRest ≤ deadline)
    (later : DueBy b net now deadline made next (round b net now delay w).2) :
    DueBy b net now deadline (made + 1) delay w := by
  intro rounds
  have first : (visit b net now delay w).time ≤ deadline := due
  rw [Nat.add_right_comm, visitsFrom_pending _ found, visitsFrom_pending _ found,
    List.filter_cons_of_pos (by simpa using first), later rounds]

theorem DueBy.time_le {made : Nat} (dueBy : DueBy b net now deadline made delay w) :
    ∀ v ∈ visitsFrom b net now made delay w, v.time ≤ deadline := by
  intro v here
  rw [← dueBy 0, List.mem_filter] at here
  exact of_decide_eq_true here.2

/-- The next check is not due any more. -/
theorem DueBy.lt_time {made : Nat} {v : Visit} (dueBy : DueBy b net now deadline made delay w)
    (next : visitsFrom b net now (made + 1) delay w = visitsFrom b net now made delay w ++ [v]) :
    deadline < v.time := by
  have all := dueBy 1
  have kept : (visitsFrom b net now made delay w).filter (fun u => u.time ≤ deadline)
      = visitsFrom b net now made delay w := dueBy 0
  rw [next, List.filter_append, kept] at all
  have none := List.filter_eq_nil_iff.1 (List.append_right_eq_self.1 all)
  apply Nat.lt_of_not_le
  intro early
  exact none v (List.mem_singleton_self v) (decide_eq_true early)

theorem endsBy_loopUntil :
    ∀ (rounds : Nat) (delay : Span) (w : Wait σ τ), EndsBy b net now deadline rounds delay w
      (loopUntil b net now deadline rounds delay w) := by
  -- What the rest of the wait ends with, it ends with, after one check more.
  intro rounds
  induction rounds with
  | zero =>
      intro delay w
      exact .exhausted (.start delay w) (fun v here => nomatch here)
  | succ rounds ih =>
      intro delay w
      by_cases due : w.elapsed + delay.asRest ≤ deadline
      · rcases pending_or_verdict (round b net now delay w).1 with ⟨next, found⟩ | ⟨answer, ends⟩
        · rw [loopUntil_pending rounds due found]
          have rest := ih next (round b net now delay w).2
          generalize loopUntil b net now deadline rounds next _ = result at rest
          cases rest with
          | answered ended early =>
              refine .answered ?_ early
              rw [loop_pending rounds found, ended]
          | @expired made unanswered later =>
              rw [← loop_pending made found]
              exact .expired (.check found unanswered) (.succ found due later)
          | exhausted unanswered all =>
              rw [← loop_pending rounds found]
              refine .exhausted (.check found unanswered) ?_
              intro v here
              rw [visitsFrom_pending rounds found] at here
              rcases List.mem_cons.1 here with rfl | later
              · exact due
              · exact all v later
        · rw [loopUntil_ends rounds due ends]
          exact .answered (loop_ends rounds ends) due
      · rw [loopUntil_late rounds due]
        exact .expired (.start delay w) (dueBy_zero due)

/-- There are rounds enough for every deadline. -/
theorem Unanswered.rounds_suffice
    (unanswered : Unanswered b net now (roundsWithin deadline) delay w) :
    ¬ ∀ v ∈ visitsFrom b net now (roundsWithin deadline) delay w, v.time ≤ deadline := by
  intro due
  have long := unanswered.takes_long due
  rw [show minInterval.nanos = 10000000 from rfl] at long
  omega

/-- A wait that is answered in time is answered before its rounds are used up. -/
theorem loopUntil_of_loop {rounds : Nat} (ended : loop b net now rounds delay w = (some answer, w'))
    (early : w'.elapsed ≤ deadline) :
    loopUntil b net now deadline (roundsWithin deadline) delay w = (some answer, w') := by
  have ends : EndsBy b net now deadline (roundsWithin deadline) delay w
      (loopUntil b net now deadline (roundsWithin deadline) delay w) := endsBy_loopUntil _ _ _
  generalize loopUntil b net now deadline (roundsWithin deadline) delay w = result at ends
  cases ends with
  | answered other _ =>
      -- A wait with the rounds of both is answered as either is.
      have first := loop_add rounds (roundsWithin deadline) delay other
      have second := loop_add (roundsWithin deadline) rounds delay ended
      rw [Nat.add_comm, second] at first
      exact first.symm
  | @expired made unanswered dueBy =>
      -- The check that ends the wait is due in time, so it is among those that ended nothing.
      obtain ⟨v, here, time, ends⟩ :=
        last_visit (made + rounds) delay
          (by rw [Nat.add_comm]; exact loop_add made rounds delay ended)
      have due : v ∈ visitsFrom b net now made delay w := by
        rw [← dueBy rounds, List.mem_filter]
        refine ⟨here, decide_eq_true ?_⟩
        rw [time]
        exact early
      rw [unanswered.verdict_visit v due] at ends
      cases ends
  | exhausted unanswered due => exact absurd due unanswered.rounds_suffice

/-- Otherwise it expires after the checks that are due by the deadline. -/
theorem loopUntil_of_late
    (late : ∀ rounds answer w', loop b net now rounds delay w = (some answer, w') →
      ¬ w'.elapsed ≤ deadline) :
    ∃ made, Unanswered b net now made delay w ∧ DueBy b net now deadline made delay w ∧
      loopUntil b net now deadline (roundsWithin deadline) delay w
        = (none, { (loop b net now made delay w).2 with elapsed := deadline }) := by
  have ends : EndsBy b net now deadline (roundsWithin deadline) delay w
      (loopUntil b net now deadline (roundsWithin deadline) delay w) := endsBy_loopUntil _ _ _
  generalize loopUntil b net now deadline (roundsWithin deadline) delay w = result at ends
  cases ends with
  | answered ended early => exact absurd early (late _ _ _ ended)
  | expired unanswered dueBy => exact ⟨_, unanswered, dueBy, rfl⟩
  | exhausted unanswered due => exact absurd due unanswered.rounds_suffice

end Until

end Wait

namespace Counter

namespace Clocked

open Wait (Visit Unanswered DueBy)

variable {h : Handle} {demand : Demand} {line : Line σ τ} {next : Span}

/-- The only call on a handle rests. -/
def resting (h : Handle) (demand : Demand) (since till : Span) : Clocked σ :=
  ⟨⟨⟨h, some ⟨0, demand, .resting⟩, [], []⟩, none⟩, since, till⟩

/-- The only call on a handle makes its check. -/
def checking (h : Handle) (demand : Demand) (d : Dialogue σ Check) (till : Span) : Clocked σ :=
  ⟨⟨⟨h, some ⟨0, demand, .checking⟩, [], []⟩, some d⟩, till, till⟩

/-- A wait begins with the rest of the initial delay. -/
theorem run_waitBegins (b : Backend σ) (pending : h.outcome = none) :
    ∃ past : History σ, checked past = [] ∧
      Run Moves (opened h .zero) past
        (resting h .timedWait .zero (.zero + h.initialDelay.asRest)) := by
  have comes : Moves (opened h .zero) (.act (.turn (.arrive 0 .timedWait h.backend))) none
      (⟨⟨⟨h, none, [], [(0, .timedWait)]⟩, none⟩, .zero, .zero⟩ : Clocked σ) := by
    have arrives : (Counter.opened h).step (.arrive 0 .timedWait h.backend)
        = some (⟨h, none, [], [(0, .timedWait)]⟩, none) := by
      simp [Counter.step, Counter.opened, present, demandOf?, Handle.known?, pending]
    exact moves_of_turn b arrives (by simp) (by simp) rfl rfl
  have joins : Moves (⟨⟨⟨h, none, [], [(0, .timedWait)]⟩, none⟩, .zero, .zero⟩ : Clocked σ)
      (.act (.turn (.join 0))) none ⟨⟨⟨h, none, [(0, .timedWait)], []⟩, none⟩, .zero, .zero⟩ :=
    moves_of_turn b rfl (by simp) (by simp) rfl rfl
  have served : Moves (⟨⟨⟨h, none, [(0, .timedWait)], []⟩, none⟩, .zero, .zero⟩ : Clocked σ)
      (.act (.turn (.serve 0))) none
      (resting h .timedWait .zero (.zero + h.initialDelay.asRest)) := by
    have serves : (⟨h, none, [(0, .timedWait)], []⟩ : Counter).step (.serve 0)
        = some (⟨h, some ⟨0, .timedWait, .resting⟩, [], []⟩, none) := by
      simp [Counter.step, pending, firstWork]
    exact moves_of_turn b serves (by simp) (by simp) rfl rfl
  exact ⟨_, rfl, .step (.step (.step .start comes) joins) served⟩

section

variable {past : History σ} {since till : Span}
  (soFar : Run Moves (opened h .zero) past (resting h .timedWait since till))

include soFar

/-- After a rest the wait makes a check, and after a check that finds the job unfinished it rests
for the time that the check has found. -/
theorem run_check (pending : h.outcome = none) (early : since ≤ till)
    (found : ((b.check h).run net now line).1 = .pending next) :
    ∃ past' : History σ, checked past' = checked past ++ [(till, .pending next)] ∧
      Run Moves (opened h .zero) past' (resting h .timedWait till (till + next.asRest)) := by
  have whole : since + (till - since) = till :=
    Span.eq_of_nanos (Nat.add_sub_of_le early)
  have rests : Moves (resting h .timedWait since till : Clocked σ) (.pass (till - since)) none
      (resting h .timedWait (since + (till - since)) till) :=
    .passes (.rest rfl rfl (Nat.le_of_eq (congrArg Span.nanos whole)))
  rw [whole] at rests
  have wakes : Moves (resting h .timedWait till till) (.act (.turn (.wake 0))) none
      (checking h .timedWait (b.check h) till) :=
    moves_of_turn b rfl (fun _ _ => Nat.le_refl _) nofun rfl rfl
  obtain ⟨late, untold, course⟩ :=
    run_of_heeds (Dialogue.heeds_run net now (b.check h) line)
      (s := checking h .timedWait (b.check h) till) rfl
  rw [found] at course
  have ends : Moves (checking h .timedWait (.done (.pending next)) till : Clocked σ)
      (.act (.turn (.find 0 (.pending next)))) none
      (resting h .timedWait till (till + next.asRest)) := by
    refine moves_of_turn b ?_ nofun ?_ rfl rfl
    · simp [Counter.step, checking, Demand.verdict, Wait.verdict, Handle.settle, Check.outcome?,
        pending]
    · intro call c same
      cases same
      rfl
  have soFar := (Run.step (.step soFar rests) wakes).trans course
  refine ⟨_, ?_, .step soFar ends⟩
  rw [checked, passed_of_run soFar, checked_append untold]
  rfl

/-- Before the rest is over the deadline may pass.  The wait is then late, and the counter is as if
nobody had come. -/
theorem run_expire (b : Backend σ) {deadline : Span} (due : since ≤ deadline)
    (next : deadline < till) :
    ∃ (past' : History σ) (s : Clocked σ), checked past' = checked past ∧
      Run Moves (opened h .zero) ((.act (.turn (.expire 0)), some (0, .late)) :: past') s ∧
      s.now = deadline ∧ s.live = .opened h := by
  have whole : since + (deadline - since) = deadline :=
    Span.eq_of_nanos (Nat.add_sub_of_le due)
  have rests : Moves (resting h .timedWait since till : Clocked σ) (.pass (deadline - since)) none
      (resting h .timedWait (since + (deadline - since)) till) := by
    refine .passes (.rest rfl rfl ?_)
    show since + (deadline - since) ≤ till
    rw [whole]
    exact Nat.le_of_lt next
  rw [whole] at rests
  have expires : Moves (resting h .timedWait deadline till : Clocked σ)
      (.act (.turn (.expire 0))) (some (0, .late)) ⟨.opened h, deadline, till⟩ :=
    moves_of_turn b rfl nofun nofun rfl rfl
  exact ⟨(.pass (deadline - since), none) :: past, _, rfl, .step (.step soFar rests) expires, rfl,
    rfl⟩

end

/-- A wait that is not answered is a run: it makes its checks when they are due, and then it rests
until the next one. -/
theorem run_of_unanswered {rounds : Nat} {delay : Span} {w : Wait σ τ}
    (unanswered : Unanswered b net now rounds delay w) (pending : w.handle.outcome = none)
    {past : History σ} (soFar : Run Moves (opened w.handle .zero) past
      (resting w.handle .timedWait w.elapsed (w.elapsed + delay.asRest))) :
    ∃ (past' : History σ) (v : Visit),
      checked past' = checked past
        ++ (Wait.visitsFrom b net now rounds delay w).map (fun v => (v.time, v.found)) ∧
      Wait.visitsFrom b net now (rounds + 1) delay w
        = Wait.visitsFrom b net now rounds delay w ++ [v] ∧
      Run Moves (opened w.handle .zero) past' (resting w.handle .timedWait
        (Wait.loop b net now rounds delay w).2.elapsed v.time) := by
  -- Between two checks the wait rests, from the end of the one until the other is due.
  induction unanswered generalizing past with
  | start delay w =>
      refine ⟨past, Wait.visit b net now delay w, (List.append_nil _).symm, ?_, soFar⟩
      rcases Wait.pending_or_verdict (Wait.round b net now delay w).1 with
        ⟨next, found⟩ | ⟨answer, ends⟩
      · rw [Wait.visitsFrom_pending 0 found]
        rfl
      · rw [Wait.visitsFrom_ends 0 ends]
        rfl
  | @check rounds delay next w found _ ih =>
      have same := Wait.handle_pending found
      obtain ⟨past₁, made, run₁⟩ := run_check soFar pending (Nat.le_add_right _ _) found
      rw [same] at ih
      obtain ⟨past', v, all, last, run⟩ := ih pending run₁
      refine ⟨past', v, ?_, ?_, ?_⟩
      · rw [all, made, Wait.visitsFrom_pending rounds found, List.map_cons, List.append_assoc]
        rw [show (Wait.visit b net now delay w).found = .pending next from found]
        rfl
      · rw [Wait.visitsFrom_pending _ found, Wait.visitsFrom_pending _ found, last,
          List.cons_append]
      · rw [Wait.loop_pending rounds found]
        exact run

end Clocked
end Counter

namespace Wait

open Counter (Clocked)

section Calls

variable {h : Handle} {line : Line σ τ} (pending : h.outcome = none)

include pending

theorem runUntil_of_own (own : b.name line.state = h.backend) (patience : Span) :
    runUntil b net now patience h line
      = loopUntil b net now patience.wholeMillis (roundsWithin patience.wholeMillis) h.initialDelay
          ⟨.zero, h, line⟩ := by
  simp [runUntil, Handle.known?, pending, own]

theorem runUntil_of_foreign (foreign : b.name line.state ≠ h.backend) (patience : Span) :
    runUntil b net now patience h line
      = (some (.error (h.foreign (b.name line.state))), ⟨.zero, h, line⟩) := by
  simp [runUntil, Handle.known?, pending, foreign]

/-- A wait that runs into its deadline is a run of the counter, which is then as before. -/
theorem run_of_expired {made : Nat} {deadline : Span}
    (unanswered : Unanswered b net now made h.initialDelay ⟨.zero, h, line⟩)
    (dueBy : DueBy b net now deadline made h.initialDelay ⟨.zero, h, line⟩) :
    ∃ (past : Clocked.History σ) (s : Clocked σ),
      Run Clocked.Moves (Clocked.opened h .zero)
        ((.act (.turn (.expire 0)), some (0, .late)) :: past) s ∧
      Clocked.checked past = (visits b net now made h line).map (fun v => (v.time, v.found)) ∧
      s.now = deadline ∧ s.live = .opened h := by
  obtain ⟨past₀, nothing, begins⟩ := Clocked.run_waitBegins b pending
  obtain ⟨past, v, all, last, run⟩ := Clocked.run_of_unanswered unanswered pending begins
  have since := unanswered.elapsed (Nat.zero_le _) dueBy.time_le
  obtain ⟨past', s, same, run, time, free⟩ := Clocked.run_expire run b since (dueBy.lt_time last)
  refine ⟨past', s, run, ?_, time, free⟩
  rw [same, all, nothing]
  rfl

/-- A wait with a deadline is answered as the wait without one if that is answered by the time that
the timer for its patience goes off; this is after the least whole number of milliseconds that is
not less than the patience, and so after the patience itself if that is whole.  Otherwise it is
given up at that time.  It has then made the checks that are due by then, no others, and left the
handle as it was and the line as these checks left it; and there is a run of the counter with these
checks in which the wait is late at that time.  Whenever the wait of a handle's only caller is late,
it leaves the counter as free as before. -/
theorem waits_until_deadline (patience : Span) :
    (patience.wholeMillis.nanos % 1000000 = 0 ∧ patience ≤ patience.wholeMillis ∧
        (∀ time : Span, time.nanos % 1000000 = 0 → patience ≤ time → patience.wholeMillis ≤ time) ∧
        (patience.nanos % 1000000 = 0 → patience.wholeMillis = patience)) ∧
      (∀ rounds answer w, run b net now rounds h line = (some answer, w) →
        w.elapsed ≤ patience.wholeMillis → runUntil b net now patience h line = (some answer, w)) ∧
      ((∀ rounds answer w, run b net now rounds h line = (some answer, w) →
          ¬ w.elapsed ≤ patience.wholeMillis) →
        ∃ made, (run b net now made h line).1 = none ∧
          runUntil b net now patience h line
            = (none, ⟨patience.wholeMillis, h, (run b net now made h line).2.line⟩) ∧
          (∀ rounds, (visits b net now (made + rounds) h line).filter
              (fun v => v.time ≤ patience.wholeMillis) = visits b net now made h line) ∧
          ∃ (past : Clocked.History σ) (s : Clocked σ),
            Run Clocked.Moves (Clocked.opened h .zero)
              ((.act (.turn (.expire 0)), some (0, .late)) :: past) s ∧
            Clocked.checked past
              = (visits b net now made h line).map (fun v => (v.time, v.found)) ∧
            s.now = patience.wholeMillis ∧ s.live = .opened h) ∧
      ∀ caller past (l l' : Counter.Live σ) reply, Run Counter.Live.Moves (.opened h) past l →
        (∀ x ∈ Counter.Live.turns past, x.1.call = caller) →
          l.Moves (.turn (.expire caller)) reply l' → l' = .opened h := by
  refine ⟨⟨Span.wholeMillis_mod _, Span.le_wholeMillis _, fun _ => Span.wholeMillis_le,
    Span.wholeMillis_of_whole⟩, ?_, ?_, ?_⟩
  · intro rounds answer w answered early
    by_cases own : b.name line.state = h.backend
    · rw [runUntil_of_own pending own]
      rw [run_of_own pending own] at answered
      exact loopUntil_of_loop answered early
    · rw [runUntil_of_foreign pending own, ← answered, run_of_foreign pending own]
  · intro late
    have own : b.name line.state = h.backend := by
      by_contra foreign
      exact late 0 _ _ (run_of_foreign pending foreign 0) (Nat.zero_le _)
    simp only [run_of_own pending own, runUntil_of_own pending own] at late ⊢
    obtain ⟨made, unanswered, dueBy, expired⟩ := loopUntil_of_late late
    refine ⟨made, unanswered.loop_eq_none, ?_, dueBy, run_of_expired pending unanswered dueBy⟩
    rw [expired]
    simp only [unanswered.handle]
  · intro caller past l l' reply run only move
    exact Counter.opened_of_expire run only move

end Calls

/-- A job that is found unfinished after ten milliseconds and done after thirty-five is waited for
in vain for twenty milliseconds and with success for forty. -/
theorem waits_until_deadline_twice :
    Backend.pendingJob.outcome = none ∧
      runUntil Plain.backend (finishingAfter [.ok (running 25)]) ⟨0, 0, 0⟩ (.ofMillis 40)
          Backend.pendingJob (freshLine "plain")
        = run Plain.backend (finishingAfter [.ok (running 25)]) ⟨0, 0, 0⟩ 2 Backend.pendingJob
            (freshLine "plain") ∧
      ∃ made, runUntil Plain.backend (finishingAfter [.ok (running 25)]) ⟨0, 0, 0⟩ (.ofMillis 20)
          Backend.pendingJob (freshLine "plain")
        = (none, ⟨.ofMillis 20, Backend.pendingJob,
            (run Plain.backend (finishingAfter [.ok (running 25)]) ⟨0, 0, 0⟩ made
              Backend.pendingJob (freshLine "plain")).2.line⟩) := by
  have spec := @waits_until_deadline _ _ Plain.backend (finishingAfter [.ok (running 25)]) ⟨0, 0, 0⟩
    Backend.pendingJob (freshLine "plain") rfl
  obtain ⟨answer, w, ended⟩ : ∃ answer w, run Plain.backend (finishingAfter [.ok (running 25)])
      ⟨0, 0, 0⟩ 2 Backend.pendingJob (freshLine "plain") = (some answer, w) := ⟨_, _, rfl⟩
  have time : w.elapsed = .ofMillis 35 := by
    rw [show w = _ from (congrArg Prod.snd ended).symm]
    decide +kernel
  refine ⟨rfl, ?_, ?_⟩
  · rw [ended]
    refine (spec (.ofMillis 40)).2.1 2 answer w ended ?_
    rw [time]
    decide
  · have late : ∀ rounds other w', run Plain.backend (finishingAfter [.ok (running 25)]) ⟨0, 0, 0⟩
        rounds Backend.pendingJob (freshLine "plain") = (some other, w') →
          ¬ w'.elapsed ≤ (Span.ofMillis 20).wholeMillis := by
      intro rounds other w' answered
      -- However many rounds it has, the wait is answered as it is after two.
      have first := loop_add 2 rounds _ ((run_of_own rfl rfl rounds).symm.trans answered)
      have second := loop_add rounds 2 _ ((run_of_own rfl rfl 2).symm.trans ended)
      rw [Nat.add_comm, second] at first
      cases first
      rw [time]
      decide
    obtain ⟨made, _, gaveUp, _⟩ := (spec (.ofMillis 20)).2.2.1 late
    exact ⟨made, gaveUp⟩

-- A rest takes thirty years at most, but no deadline is too late.
example :
    (runUntil Plain.backend (finishingAfter [.ok (running 1000)]) ⟨0, 0, 0⟩
      (.ofSeconds 18446744073709551615)
        { Backend.pendingJob with initialDelay := .ofMillis 18446744073709551615 }
          (freshLine "plain")).2.elapsed = .ofMillis 946080001000 := by
  decide +kernel

/-- A timer counts whole milliseconds only, so a wait may be answered later than it has patience. -/
theorem timers_unlike_patience :
    (¬ (run Plain.backend (finishingAfter []) ⟨0, 0, 0⟩ 1
          { Backend.pendingJob with initialDelay := .ofMillis 11 } (freshLine "plain")).2.elapsed
        ≤ ⟨10500000⟩) ∧
      (runUntil Plain.backend (finishingAfter []) ⟨0, 0, 0⟩ ⟨10500000⟩
        { Backend.pendingJob with initialDelay := .ofMillis 11 } (freshLine "plain")).1.isSome := by
  refine ⟨?_, ?_⟩
  · decide +kernel
  · decide +kernel

end Wait
end QuantumJobs

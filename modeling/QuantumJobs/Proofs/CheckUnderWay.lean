import QuantumJobs.Proofs.OneCheck
import QuantumJobs.Proofs.PollVerdict

/-!
# CheckUnderWay — checks that take time

A status check is a dialogue: it looks at the backend's state, sends requests and goes on with their
answers, and between any two of its steps anything else may happen at the counter.  Here the counter
keeps what is left of the check under way.  The answers, the states that the check finds and the
backend that a call brings along are arbitrary.
-/

namespace QuantumJobs

variable {σ τ α : Type}

/-! ## Dialogues one step at a time -/

namespace Dialogue

/-- What a dialogue goes on with. -/
inductive Cue (σ : Type)
  | state (s : σ)
  | time (t : Instant)
  | answer (answer : Outcome Json)

/-- What is left of a dialogue after a cue that it waits for. -/
def heed : Dialogue σ α → Cue σ → Option (Dialogue σ α)
  | .change _ next, .state s => some (next s)
  | .clock next, .time t => some (next t)
  | .send _ next, .answer answer => some (next answer)
  | _, _ => none

/-- The request that has been sent and is not answered yet. -/
def sent? : Dialogue σ α → Option Request
  | .send r _ => some r
  | _ => none

/-- A dialogue comes by cues to what is left of it. -/
inductive Heeds : Dialogue σ α → Dialogue σ α → Prop where
  | refl (d : Dialogue σ α) : Heeds d d
  | step {d d' d'' : Dialogue σ α} (cue : Cue σ) : d.heed cue = some d' → Heeds d' d'' → Heeds d d''

/-- A run of a dialogue against a network gives it cues until it ends. -/
theorem heeds_run (net : Network τ) (time : Instant) (d : Dialogue σ α) :
    ∀ line : Line σ τ, Heeds d (.done (d.run net time line).1) := by
  induction d with
  | done a =>
      intro line
      exact .refl _
  | change f next ih =>
      intro line
      exact .step (.state line.state) rfl (ih line.state { line with state := f line.state })
  | clock next ih =>
      intro line
      exact .step (.time time) rfl (ih time line)
  | send r next ih =>
      intro line
      refine .step (.answer (net.answer r line.wire).1) rfl ?_
      exact ih (net.answer r line.wire).1
        { line with wire := (net.answer r line.wire).2, sent := line.sent ++ [r] }

end Dialogue

namespace Counter

/-! ## The live counter -/

/-- A counter and what is left of the check under way. -/
structure Live (σ : Type) where
  counter : Counter
  check : Option (Dialogue σ Check)

namespace Live

inductive Event (σ : Type)
  /-- Something happens at the counter. -/
  | turn (e : Counter.Event)
  /-- The check under way goes on. -/
  | proceed (cue : Dialogue.Cue σ)

def opened (h : Handle) : Live σ := ⟨.opened h, none⟩

/-- Whether the call that is served makes a check. -/
def inCheck (c : Counter) : Bool :=
  match c.service with
  | some s => s.work = .checking
  | none => false

/-- The live counter after the counter has changed.  If the service has changed, a check that was
under way is over, and one that begins is the backend's. -/
def follow (l : Live σ) (b : Backend σ) (c : Counter) : Live σ where
  counter := c
  check :=
    if c.service = l.counter.service then l.check
    else if inCheck c then some (b.check c.handle)
    else none

/-- A check ends with what its dialogue has come to. -/
def Admits (l : Live σ) (e : Counter.Event) : Prop :=
  ∀ call found, e = .find call found → l.check = some (.done found)

/-- The moves of the live counter. -/
inductive Moves (l : Live σ) : Event σ → Option (Nat × Reply) → Live σ → Prop where
  | turns {e : Counter.Event} {c : Counter} {reply : Option (Nat × Reply)} (b : Backend σ) :
      l.Admits e → l.counter.step e = some (c, reply) → Moves l (.turn e) reply (l.follow b c)
  | proceeds {cue : Dialogue.Cue σ} {d d' : Dialogue σ Check} :
      l.check = some d → d.heed cue = some d' →
        Moves l (.proceed cue) none { l with check := some d' }

/-- The request that is in flight. -/
def sent? (l : Live σ) : Option Request := l.check.bind Dialogue.sent?

/-- What has happened at the counter. -/
def turns : Past (Event σ) (Nat × Reply) → Past Counter.Event (Nat × Reply)
  | [] => []
  | (.turn e, reply) :: before => (e, reply) :: turns before
  | (.proceed _, _) :: before => turns before

/-! ## The live counter agrees with its past -/

structure Agrees (past : Past (Event σ) (Nat × Reply)) (l : Live σ) : Prop where
  counter : l.counter.Agrees (turns past)
  /-- A check is under way only while the call that is served makes one. -/
  served : ∀ d, l.check = some d → inCheck l.counter = true

variable {past : Past (Event σ) (Nat × Reply)} {l l' : Live σ} {e : Event σ}
  {reply : Option (Nat × Reply)}

theorem inCheck_iff {c : Counter} :
    inCheck c = true ↔ ∃ call demand, c.service = some ⟨call, demand, .checking⟩ := by
  unfold inCheck
  cases busy : c.service with
  | none => simp
  | some s =>
      obtain ⟨call, demand, work⟩ := s
      simp

theorem Agrees.step (agrees : l.Agrees past) (move : l.Moves e reply l') :
    l'.Agrees ((e, reply) :: past) := by
  cases move with
  | @turns e c reply b _ move =>
      refine ⟨agrees.counter.step (moves_of_step move), ?_⟩
      intro d underWay
      unfold follow at underWay
      -- A check outlives a turn only if the service does.
      by_cases same : c.service = l.counter.service
      · simp only [same, if_true] at underWay
        have before := agrees.served d underWay
        unfold inCheck at before ⊢
        rw [show (l.follow b c).counter.service = _ from same]
        exact before
      · simp only [same, if_false] at underWay
        by_cases checks : inCheck c = true
        · exact checks
        · simp [checks] at underWay
  | proceeds underWay _ =>
      refine ⟨agrees.counter, ?_⟩
      intro d _
      exact agrees.served _ underWay

theorem agrees_opened (h : Handle) : (opened h : Live σ).Agrees [] where
  counter := Counter.agrees_opened h
  served := by
    intro d underWay
    cases underWay

theorem agrees_of_run (h : Handle) (run : Run Moves (opened h) past l) : l.Agrees past := by
  apply run.invariant (agrees_opened h)
  intro past s e reply s' agrees move
  exact agrees.step move

/-- While a check is under way, some call makes it. -/
theorem Agrees.checking (agrees : l.Agrees past) {d : Dialogue σ Check}
    (underWay : l.check = some d) :
    ∃ call demand, standing call (turns past) = .checking demand := by
  obtain ⟨call, demand, busy⟩ := inCheck_iff.1 (agrees.served d underWay)
  exact ⟨call, demand, agrees.counter.stands call (.checking demand) busy⟩

/-- After the job has ended, no check is under way. -/
theorem Agrees.check_none (agrees : l.Agrees past) {o : JobOutcome}
    (settled : l.counter.handle.outcome = some o) : l.check = none := by
  cases underWay : l.check with
  | none => rfl
  | some d =>
      obtain ⟨call, demand, busy⟩ := inCheck_iff.1 (agrees.served d underWay)
      exact absurd busy (agrees.counter.not_served settled)

/-- From the end of the job on, the outcome stays and all answers are given with it. -/
theorem settled_run {o : JobOutcome} {later : Past (Event σ) (Nat × Reply)}
    (agrees : l.Agrees past) (settled : l.counter.handle.outcome = some o)
    (run : Run Moves l later l') :
    l'.Agrees (later ++ past) ∧ l'.counter.handle.outcome = some o ∧
      ∀ e call answer before, (.turn e, some (call, answer)) :: before <:+ later →
        AnsweredAfter o (turns (before ++ past)) e call answer := by
  induction run with
  | start =>
      refine ⟨agrees, settled, ?_⟩
      intro e call answer before older
      cases List.suffix_nil.1 older
  | @step later s s' newest reply before move ih =>
      obtain ⟨soFar, same, answered⟩ := ih
      refine ⟨soFar.step move, ?_⟩
      cases move with
      | @turns e c reply b _ move =>
          obtain ⟨stays, now⟩ := soFar.counter.settled_step (moves_of_step move) same
          refine ⟨stays, ?_⟩
          intro e' call answer earlier older
          rcases List.suffix_cons_iff.1 older with newest | older
          · cases newest
            exact now call answer rfl
          · exact answered e' call answer earlier older
      | proceeds _ _ =>
          refine ⟨same, ?_⟩
          intro e' call answer earlier older
          rcases List.suffix_cons_iff.1 older with newest | older
          · cases newest
          · exact answered e' call answer earlier older

/-- Only of the end of a check more is asked than that it can happen at the counter. -/
theorem admits_of_ne {e : Counter.Event} (other : ∀ call found, e ≠ .find call found) :
    l.Admits e := by
  intro call found same
  exact absurd same (other call found)

theorem moves_of_turn (b : Backend σ) {e : Counter.Event} {c : Counter}
    {check : Option (Dialogue σ Check)} (step : l.counter.step e = some (c, reply))
    (admits : l.Admits e) (follows : (l.follow b c).check = check) :
    l.Moves (.turn e) reply ⟨c, check⟩ := by
  cases follows
  exact .turns b admits step

/-! ## A poll as a run -/

/-- A check under way may go on undisturbed. -/
theorem run_of_heeds {d d' : Dialogue σ Check} (course : Dialogue.Heeds d d') :
    ∀ {l : Live σ}, l.check = some d →
      ∃ late, Run Moves l late { l with check := some d' } := by
  induction course with
  | refl d =>
      intro l underWay
      refine ⟨[], ?_⟩
      rw [← underWay]
      exact .start
  | step cue heeded _ ih =>
      intro l underWay
      have first : Run Moves l [(.proceed cue, none)] { l with check := some _ } :=
        .step .start (.proceeds underWay heeded)
      obtain ⟨late, rest⟩ := @ih { l with check := some _ } rfl
      exact ⟨_, first.trans rest⟩

/-- The live counter at which a poll of a pending handle makes its check. -/
def polled (h : Handle) (b : Backend σ) : Live σ :=
  ⟨{ handle := h, service := some ⟨0, .poll, .checking⟩, queue := [], coming := [] },
    some (b.check h)⟩

/-- Before its check a poll arrives, joins the queue and is served. -/
def pollBegins (asked : String) : Past (Event σ) (Nat × Reply) :=
  [(.turn (.serve 0), none), (.turn (.join 0), none), (.turn (.arrive 0 .poll asked), none)]

theorem run_pollBegins (b : Backend σ) {h : Handle} (unsettled : h.outcome = none) :
    Run Moves (opened h) (pollBegins h.backend) (polled h b) := by
  have comes : (Counter.opened h).step (.arrive 0 .poll h.backend)
      = some ({ Counter.opened h with coming := [(0, .poll)] }, none) := by
    simp [Counter.step, present, demandOf?, Counter.opened, Handle.known?, unsettled]
  have joins : ({ Counter.opened h with coming := [(0, .poll)] } : Counter).step (.join 0)
      = some ({ Counter.opened h with queue := [(0, .poll)] }, none) := by
    simp [Counter.step, Counter.opened]
  have served : ({ Counter.opened h with queue := [(0, .poll)] } : Counter).step (.serve 0)
      = some ((polled h b).counter, none) := by
    simp [Counter.step, Counter.opened, polled, unsettled, firstWork]
  have first : Run Moves (opened h) [(.turn (.arrive 0 .poll h.backend), none)]
      ⟨{ Counter.opened h with coming := [(0, .poll)] }, none⟩ :=
    .step .start (moves_of_turn b comes (admits_of_ne (by simp)) rfl)
  have second := Run.step first (moves_of_turn b joins (admits_of_ne (by simp)) rfl)
  exact .step second (moves_of_turn b served (admits_of_ne (by simp)) rfl)

/-- A poll of a pending handle against a network is a run of the live counter: the call is answered
what the poll answers, and the handle becomes what the poll makes of it. -/
theorem run_poll (b : Backend σ) (net : Network τ) (now : Instant) (h : Handle) (line : Line σ τ)
    (unsettled : h.outcome = none) (own : b.name line.state = h.backend) :
    ∃ (past : Past (Event σ) (Nat × Reply)) (found : Check),
      Run Moves (opened h)
        ((.turn (.find 0 found), some (0, .poll ((b.poll h).run net now line).1.1)) :: past)
        (opened ((b.poll h).run net now line).1.2) := by
  rw [Backend.run_poll_of_pending unsettled own]
  let found := ((b.check h).run net now line).1
  obtain ⟨late, course⟩ := run_of_heeds (Dialogue.heeds_run net now (b.check h) line)
    (show (polled h b).check = _ from rfl)
  refine ⟨late ++ pollBegins h.backend, found, ?_⟩
  have soFar := (run_pollBegins b unsettled).trans course
  have ends : (polled h b).counter.step (.find 0 found)
      = some (Counter.opened (h.settle found), some (0, .poll found.poll)) := by
    simp [Counter.step, polled, Demand.verdict, Counter.opened]
  -- The dialogue has come to its end, so the check may end with what it found.
  refine .step soFar (.turns b ?_ ends)
  intro call other same
  cases same
  rfl

/-! ## Runs -/

/-- In every run at most one call makes a check, and requests are in flight only for it; the outcome
is written by the end of a check, which answers its call with what it writes; and afterwards the
outcome stays, no request is in flight, and every answer is given with it. -/
theorem one_check_one_outcome (h : Handle) {past : Past (Event σ) (Nat × Reply)} {l : Live σ}
    (run : Run Moves (opened h) past l) :
    (∀ a b demand other, standing a (turns past) = .checking demand →
        standing b (turns past) = .checking other → a = b) ∧
      (∀ r, l.sent? = some r → ∃ call demand, standing call (turns past) = .checking demand) ∧
      (∀ e reply l' o, l.Moves e reply l' → l.counter.handle.outcome = none →
        l'.counter.handle.outcome = some o →
          ∃ call demand found given, e = .turn (.find call found) ∧
            standing call (turns past) = .checking demand ∧ Stored given o ∧
            reply = some (call, demand.reply given)) ∧
      ∀ o, l.counter.handle.outcome = some o → ∀ later l', Run Moves l later l' →
        l'.counter.handle.outcome = some o ∧ l'.sent? = none ∧
          ∀ e call answer before, (e, some (call, answer)) :: before <:+ later →
            ∃ e', e = .turn e' ∧ AnsweredAfter o (turns (before ++ past)) e' call answer := by
  have agrees := agrees_of_run h run
  refine ⟨?_, ?_, ?_, ?_⟩
  · intro a b demand other first second
    exact agrees.counter.one_checking first second
  · intro r inFlight
    obtain ⟨d, underWay, _⟩ := Option.bind_eq_some_iff.1 inFlight
    exact agrees.checking underWay
  · intro e reply l' o move unsettled settled
    cases move with
    | @turns e c reply b _ move =>
        obtain ⟨call, demand, found, given, rfl, stands, stored, answer⟩ :=
          agrees.counter.settling_step (moves_of_step move) unsettled settled
        exact ⟨call, demand, found, given, rfl, stands, stored, answer⟩
    | proceeds _ _ =>
        rw [show _ = some o from settled] at unsettled
        cases unsettled
  · intro o settled later l' after
    obtain ⟨soFar, stays, answered⟩ := settled_run agrees settled after
    refine ⟨stays, ?_, ?_⟩
    · simp [sent?, soFar.check_none stays]
    · intro e call answer before older
      cases e with
      | turn e => exact ⟨e, rfl, answered e call answer before older⟩
      | proceed cue =>
          -- A check that goes on answers nobody.
          obtain ⟨_, first⟩ := after.at_suffix older
          cases first with
          | step _ move => cases move

/-- A poll of the pending job with what is left of its check and the calls behind it. -/
def pollAhead (check : Dialogue Plain.Session Check) (queue coming : List (Nat × Demand)) :
    Live Plain.Session :=
  ⟨⟨Backend.pendingJob, some ⟨0, .poll, .checking⟩, queue, coming⟩, some check⟩

/-- A poll sends its request, and a wait joins the queue behind it. -/
def waitJoins : Past (Event Plain.Session) (Nat × Reply) :=
  [(.turn (.join 1), none), (.turn (.arrive 1 .wait "plain"), none),
    (.proceed (.state (.fresh "plain")), none)] ++ pollBegins "plain"

/-- The fault of a status that is null. -/
def refusal : Fault := .malformedResponse "expected an object containing 'status'" .null

/-- The request is answered with null, and the poll is told so. -/
def nullEnds : Past (Event Plain.Session) (Nat × Reply) :=
  [(.turn (.find 0 (.failed refusal)), some (0, .poll (.error refusal))),
    (.proceed (.state (.fresh "plain")), none), (.proceed (.answer (.ok .null)), none)]

/-- The job has ended, and the wait is next in the queue. -/
def waitNext : Live Plain.Session :=
  ⟨⟨Backend.pendingJob.settle (.failed refusal), none, [(1, .wait)], []⟩, none⟩

/-- A check of the pending job asks for the status and ends once that is null. -/
theorem heeds_null :
    ∃ asks reads : Dialogue Plain.Session Check,
      (Plain.backend.check Backend.pendingJob).heed (.state (.fresh "plain")) = some asks ∧
        asks.sent?.isSome ∧ asks.heed (.answer (.ok .null)) = some reads ∧
          reads.heed (.state (.fresh "plain")) = some (.done (.failed refusal)) :=
  ⟨_, _, rfl, rfl, rfl, rfl⟩

theorem run_waitJoins {asks : Dialogue Plain.Session Check}
    (first : (Plain.backend.check Backend.pendingJob).heed (.state (.fresh "plain")) = some asks) :
    Run Moves (opened Backend.pendingJob) waitJoins (pollAhead asks [(1, .wait)] []) := by
  have begins := run_pollBegins Plain.backend (h := Backend.pendingJob) rfl
  have sends : Moves (polled Backend.pendingJob Plain.backend)
      (.proceed (.state (.fresh "plain"))) none (pollAhead asks [] []) := .proceeds rfl first
  have comes : (pollAhead asks [] []).Moves (.turn (.arrive 1 .wait "plain")) none
      (pollAhead asks [] [(1, .wait)]) :=
    moves_of_turn Plain.backend rfl (admits_of_ne (by simp)) rfl
  have joins : (pollAhead asks [] [(1, .wait)]).Moves (.turn (.join 1)) none
      (pollAhead asks [(1, .wait)] []) :=
    moves_of_turn Plain.backend rfl (admits_of_ne (by simp)) rfl
  exact .step (.step (.step begins sends) comes) joins

theorem run_nullEnds {asks reads : Dialogue Plain.Session Check}
    (second : asks.heed (.answer (.ok .null)) = some reads)
    (third : reads.heed (.state (.fresh "plain")) = some (.done (.failed refusal))) :
    Run Moves (pollAhead asks [(1, .wait)] []) nullEnds waitNext := by
  have answered : (pollAhead asks [(1, .wait)] []).Moves (.proceed (.answer (.ok .null))) none
      (pollAhead reads [(1, .wait)] []) := .proceeds rfl second
  have read : (pollAhead reads [(1, .wait)] []).Moves (.proceed (.state (.fresh "plain"))) none
      (pollAhead (.done (.failed refusal)) [(1, .wait)] []) := .proceeds rfl third
  have ends : (pollAhead (.done (.failed refusal)) [(1, .wait)] []).Moves
      (.turn (.find 0 (.failed refusal))) (some (0, .poll (.error refusal))) waitNext := by
    refine moves_of_turn Plain.backend rfl ?_ rfl
    intro call found same
    cases same
    rfl
  exact .step (.step (.step .start answered) read) ends

/-- While the request of a poll is in flight, a wait joins the queue.  The answer is null, which
ends the job: when its turn comes, the wait is answered as the poll was, and no request is sent. -/
theorem null_ends_pendingJob :
    ∃ l : Live Plain.Session, Run Moves (opened Backend.pendingJob) waitJoins l ∧ l.sent?.isSome ∧
      (∀ call demand, standing call (turns waitJoins) = .checking demand → call = 0) ∧
      Run Moves l nullEnds waitNext ∧
      (∃ reply l', waitNext.Moves (.turn (.serve 1)) (some (1, reply)) l') ∧
      ∀ reply l', waitNext.Moves (.turn (.serve 1)) (some (1, reply)) l' →
        reply = .wait (.error refusal) ∧ l'.sent? = none := by
  obtain ⟨asks, reads, first, inFlight, second, third⟩ := heeds_null
  have joined := run_waitJoins first
  have ended := run_nullEnds second third
  refine ⟨_, joined, inFlight, ?_, ended, ?_, ?_⟩
  · intro call demand checks
    exact (one_check_one_outcome Backend.pendingJob joined).1 call 0 demand .poll checks rfl
  · exact ⟨_, _, moves_of_turn Plain.backend rfl (admits_of_ne (by simp)) rfl⟩
  · intro reply l' move
    obtain ⟨_, silent, answered⟩ := (one_check_one_outcome Backend.pendingJob
      (joined.trans ended)).2.2.2 _ rfl _ l' (.step .start move)
    obtain ⟨e, same, answer⟩ := answered _ 1 reply [] (List.suffix_refl _)
    cases same
    refine ⟨?_, silent⟩
    cases answer with
    | outcome wanted =>
        have waits : Wanted 1 .wait (turns (nullEnds ++ waitJoins)) := wanted_of_standing rfl
        have same := wanted.unique (.later (by simp) waits)
        subst same
        rfl

end Live
end Counter
end QuantumJobs

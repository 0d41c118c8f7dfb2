import QuantumJobs.Proofs.FetchTraces
import QuantumJobs.Proofs.PollingLoop
import QuantumJobs.Proofs.PollsInLine
import QuantumJobs.Proofs.RecordText

/-!
# Pacing — the checks of a wait keep apart

No delay that a backend asks for is taken for less than the least interval, neither by a submission
nor by a check, and a record keeps whole milliseconds, of which the least interval has ten.  So
however a wait comes by its handle, all its rests are that long: it makes no check at once, and no
two of them closer to each other.  Only within one check the status may be asked for twice, if the
first answer does not accept the token.
-/

namespace QuantumJobs

variable {σ τ α β : Type}

/-! ## Handles that are carried about -/

namespace Handle

/-- The handles that a submission gives and that are recorded and read back any number of times. -/
inductive Carried : Handle → Prop where
  | submitted {σ τ : Type} {b : Backend σ} {net : Network τ} {now : Instant} {kernels : List Kernel}
      {line line' : Line σ τ} {h : Handle} :
      now.Valid → (b.submit kernels).run net now line = (.ok h, line') → Carried h
  | asJson {h g : Handle} : Carried h → ofJson h.toJson = .ok g → Carried g
  | asText {h g : Handle} : Carried h → ofBlob (.text h.toText) = .ok g → Carried g

variable {h g : Handle}

/-- What is read back of the record of a pending handle. -/
theorem eq_restored_of_pending (pending : h.outcome = none) (valid : h.submittedAt.Valid)
    (read : ofJson h.toJson = .ok g ∨ ofBlob (.text h.toText) = .ok g) : g = h.restored := by
  have fits : h.Fits := by
    refine ⟨valid, ?_⟩
    intro o ended
    rw [pending] at ended
    cases ended
  have nothing : h.kept? = none := by simp [kept?, failure?, pending]
  rcases read with read | read
  · rw [ofJson_toJson fits] at read
    cases read
    rfl
  · have shallow : h.keptNesting ≤ 124 := by simp [keptNesting, nothing]
    rw [ofBlob_toText fits (by simp [nothing]), if_pos shallow] at read
    cases read
    rfl

/-- A record keeps whole milliseconds, and ten of them are whole. -/
theorem minInterval_le_restored (least : minInterval ≤ h.initialDelay) :
    minInterval ≤ h.restored.initialDelay := by
  have least : 10000000 ≤ h.initialDelay.nanos := least
  show 10000000 ≤ min (h.initialDelay.nanos / 1000000) Json.maxUnsigned * 1000000
  unfold Json.maxUnsigned
  omega

theorem minInterval_le_of_accept {b : Backend σ} {s : σ} {kernels : List Kernel} {response : Json}
    {now : Instant} (accepted : b.accept s kernels response now = .ok h) :
    minInterval ≤ h.initialDelay := by
  obtain ⟨job, _, accepted⟩ := of_bind_ok accepted
  cases accepted
  exact Span.le_max_right _ _

/-- A handle of a job that has not ended, whose first check is not made too soon. -/
structure Unhurried (h : Handle) : Prop where
  pending : h.outcome = none
  valid : h.submittedAt.Valid
  least : minInterval ≤ h.initialDelay

theorem Unhurried.restored (unhurried : h.Unhurried) : h.restored.Unhurried where
  pending := by
    show h.outcome.map JobOutcome.restored = none
    rw [unhurried.pending]
    rfl
  valid := unhurried.valid
  least := minInterval_le_restored unhurried.least

theorem Unhurried.read (unhurried : h.Unhurried)
    (read : ofJson h.toJson = .ok g ∨ ofBlob (.text h.toText) = .ok g) : g.Unhurried := by
  rw [eq_restored_of_pending unhurried.pending unhurried.valid read]
  exact unhurried.restored

theorem Carried.unhurried (carried : h.Carried) : h.Unhurried := by
  induction carried with
  | submitted valid submitted =>
      obtain ⟨_, accepted⟩ := accepted_of_submit submitted
      obtain ⟨pending, time, _⟩ := of_accept accepted
      exact ⟨pending, time ▸ valid, minInterval_le_of_accept accepted⟩
  | asJson _ read ih => exact ih.read (.inl read)
  | asText _ read ih => exact ih.read (.inr read)

end Handle

/-! ## What a check can come to -/

namespace Dialogue

/-- Whatever a dialogue is told, it comes to an end of a kind. -/
inductive Ends (kind : α → Prop) : Dialogue σ α → Prop where
  | done {a : α} : kind a → Ends kind (.done a)
  | change {f : σ → σ} {next : σ → Dialogue σ α} :
      (∀ s, Ends kind (next s)) → Ends kind (.change f next)
  | clock {next : Instant → Dialogue σ α} :
      (∀ time, Ends kind (next time)) → Ends kind (.clock next)
  | send {r : Request} {next : Outcome Json → Dialogue σ α} :
      (∀ answer, Ends kind (next answer)) → Ends kind (.send r next)

namespace Ends

variable {kind : α → Prop}

theorem bind (d : Dialogue σ β) {k : β → Dialogue σ α} (next : ∀ a, (k a).Ends kind) :
    (d >>= k).Ends kind := by
  show (d.bind k).Ends kind
  induction d with
  | done a => exact next a
  | change f _ ih => exact .change ih
  | clock _ ih => exact .clock ih
  | send r _ ih => exact .send ih

theorem heed {d d' : Dialogue σ α} (ends : d.Ends kind) {cue : Cue σ}
    (heeded : d.heed cue = some d') : d'.Ends kind := by
  cases ends with
  | done _ => cases heeded
  | change next =>
      cases cue with
      | state s =>
          cases heeded
          exact next s
      | time _ => cases heeded
      | answer _ => cases heeded
  | clock next =>
      cases cue with
      | state _ => cases heeded
      | time t =>
          cases heeded
          exact next t
      | answer _ => cases heeded
  | send next =>
      cases cue with
      | state _ => cases heeded
      | time _ => cases heeded
      | answer answer =>
          cases heeded
          exact next answer

end Ends
end Dialogue

/-- A check that finds the job unfinished asks for the least interval at least. -/
def Check.Slow (c : Check) : Prop := ∀ next, c = .pending next → minInterval ≤ next

namespace Backend

open Dialogue (Ends)

variable (b : Backend σ) (h : Handle)

theorem readResults_slow (m : Json) : (b.readResults h m).Ends Check.Slow := by
  refine .change ?_
  intro s
  cases (b.results m h.job s).1 with
  | error fault => exact .done nofun
  | ok result => exact .done nofun

theorem collect_slow (status : Json) : (b.collect h status).Ends Check.Slow := by
  refine .bind _ ?_
  intro s
  cases b.resultsPath s h.job with
  | none => exact readResults_slow b h status
  | some path =>
      refine .bind _ ?_
      intro answer
      cases answer with
      | error fault => exact .done nofun
      | ok m => exact readResults_slow b h m

/-- Whatever it is told, a check is slow. -/
theorem check_slow : (b.check h).Ends Check.Slow := by
  refine .bind _ ?_
  intro answer
  cases answer with
  | error fault => exact .done nofun
  | ok status =>
      refine .bind _ ?_
      intro s
      rcases b.isDone s status with fault | _ | _
      · exact .done nofun
      · refine .done ?_
        intro next same
        cases same
        exact Span.le_max_right _ _
      · exact collect_slow b h status

end Backend

namespace Counter

theorem Moves.initialDelay {c c' : Counter} {e : Counter.Event} {reply : Option (Nat × Reply)}
    (move : c.Moves e reply c') : c'.handle.initialDelay = c.handle.initialDelay := by
  rcases move.handle_eq with same | ⟨found, settled⟩
  · rw [same]
  · have same : c.handle.settle found
        = { c.handle with outcome := (c.handle.settle found).outcome } :=
      Handle.sameJob_settle c.handle found
    rw [settled, same]

/-- A check that neither ends a call nor the job finds the job unfinished. -/
theorem pending_of_verdict {demand : Demand} {found : Check}
    (goesOn : demand.verdict found = none) :
    ∃ next, found = .pending next := by
  cases demand with
  | poll => cases goesOn
  | wait =>
      rcases Wait.pending_or_verdict found with pending | ⟨answer, ends⟩
      · exact pending
      · simp [Demand.verdict, ends] at goesOn
  | timedWait =>
      rcases Wait.pending_or_verdict found with pending | ⟨answer, ends⟩
      · exact pending
      · simp [Demand.verdict, ends] at goesOn

/-- A wait comes to a check only from its rest. -/
theorem Moves.eq_wake {c c' : Counter} {e : Counter.Event} {reply : Option (Nat × Reply)}
    {past : Past Counter.Event (Nat × Reply)} (move : c.Moves e reply c') (agrees : c.Agrees past)
    {demand : Demand} (busy : c'.service = some ⟨e.call, demand, .checking⟩)
    (waits : demand ≠ .poll) : e = .wake e.call := by
  cases move with
  | greets absent _ => exact absurd busy (not_has_of_absent absent (.checking demand))
  | arrives absent _ => exact absurd busy (not_has_of_absent absent (.checking demand))
  | @joins _ other coming =>
      cases agrees.one_place (show c.Has _ (.coming other) from coming)
        (show c.Has _ (.checking demand) from busy)
  | dismisses free _ _ =>
      rw [show c.service = _ from busy] at free
      cases free
  | @serves call wanted _ _ _ _ =>
      obtain ⟨_, rfl, first⟩ := Service.mk.inj (Option.some.inj busy)
      cases wanted with
      | poll => exact absurd rfl waits
      | wait => cases first
      | timedWait => cases first
  | wakes _ => rfl
  | ends _ _ => cases busy
  | turns _ _ _ => cases busy
  | rests _ _ _ => cases busy
  | drops => exact absurd busy (not_has_without _ (.checking demand))
  | expires _ => exact absurd busy (not_has_without _ (.checking demand))

namespace Clocked

/-! ## Rests -/

/-- The time that has passed since the last event of a call's own. -/
def sinceOwn (call : Nat) : History σ → Span
  | [] => .zero
  | (.act (.turn e), _) :: before => if e.call = call then .zero else sinceOwn call before
  | (.act (.proceed _), _) :: before => sinceOwn call before
  | (.pass length, _) :: before => sinceOwn call before + length

/-- A rest that is under way has begun with the last event of its call, and it is as long as the
least interval at least. -/
structure Paced (past : History σ) (s : Clocked σ) : Prop where
  agrees : s.live.Agrees (acts past)
  delay : minInterval ≤ s.live.counter.handle.initialDelay
  slow : ∀ d, s.live.check = some d → d.Ends Check.Slow
  rests : ∀ call demand, s.live.counter.service = some ⟨call, demand, .resting⟩ →
    s.now.nanos + minInterval.nanos ≤ s.till.nanos + (sinceOwn call past).nanos

variable {past : History σ} {s s' : Clocked σ} {e : Counter.Event} {c : Counter}
  {reply : Option (Nat × Reply)} {h : Handle} {start : Span}

theorem paced_opened (least : minInterval ≤ h.initialDelay) (start : Span) :
    Paced [] (opened h start : Clocked σ) where
  agrees := Live.agrees_opened h
  delay := least
  slow := nofun
  rests := nofun

/-- A rest that goes on is the same rest, and the clock stands still. -/
theorem Paced.goesOn (paced : Paced past s) {call : Nat} {demand : Demand}
    (busy : s.live.counter.service = some ⟨call, demand, .resting⟩) (other : e.call ≠ call)
    (same : s.tillAfter (.turn e) = s.till) :
    s.now.nanos + minInterval.nanos ≤ (s.tillAfter (.turn e)).nanos
      + (sinceOwn call ((.act (.turn e), reply) :: past)).nanos := by
  rw [same, sinceOwn, if_neg other]
  exact paced.rests call demand busy

/-- A rest begins. -/
theorem begins {delay : Span} (least : minInterval ≤ delay)
    (lasts : s.tillAfter (.turn e) = s.now + delay.asRest) :
    s.now.nanos + minInterval.nanos ≤ (s.tillAfter (.turn e)).nanos
      + (sinceOwn e.call ((.act (.turn e), reply) :: past)).nanos := by
  have long : minInterval.nanos ≤ delay.asRest.nanos := Wait.minInterval_le_asRest least
  rw [lasts, Span.nanos_add]
  omega

/-- Serving a wait and finding its job unfinished begin a rest; nothing else does. -/
theorem Paced.rests_turn (paced : Paced past s) (admits : s.live.Admits e)
    (move : s.live.counter.Moves e reply c) (call : Nat) (demand : Demand)
    (busy : c.service = some ⟨call, demand, .resting⟩) :
    s.now.nanos + minInterval.nanos ≤ (s.tillAfter (.turn e)).nanos
      + (sinceOwn call ((.act (.turn e), reply) :: past)).nanos := by
  cases move with
  | greets absent _ =>
      refine paced.goesOn busy ?_ rfl
      rintro rfl
      exact not_has_of_absent absent (.resting demand) busy
  | arrives absent _ =>
      refine paced.goesOn busy ?_ rfl
      rintro rfl
      exact not_has_of_absent absent (.resting demand) busy
  | @joins _ other coming =>
      refine paced.goesOn busy ?_ rfl
      rintro rfl
      cases paced.agrees.counter.one_place (show s.live.counter.Has _ (.coming other) from coming)
        (show s.live.counter.Has _ (.resting demand) from busy)
  | dismisses free _ _ =>
      rw [show s.live.counter.service = _ from busy] at free
      cases free
  | serves _ _ _ =>
      obtain ⟨rfl, _⟩ := Service.mk.inj (Option.some.inj busy)
      exact begins paced.delay rfl
  | wakes _ => cases busy
  | ends _ _ => cases busy
  | turns _ _ _ => cases busy
  | rests _ goesOn _ =>
      cases busy
      obtain ⟨next, rfl⟩ := pending_of_verdict goesOn
      have slow := paced.slow _ (admits call _ rfl)
      cases slow with
      | done slow => exact begins (slow next rfl) rfl
  | drops =>
      obtain ⟨busy, other⟩ := Option.filter_eq_some_iff.1 busy
      exact paced.goesOn busy (fun same => of_decide_eq_true other same.symm) rfl
  | expires _ =>
      obtain ⟨busy, other⟩ := Option.filter_eq_some_iff.1 busy
      exact paced.goesOn busy (fun same => of_decide_eq_true other same.symm) rfl

theorem Paced.step {e : Event σ} (paced : Paced past s) (move : s.Moves e reply s') :
    Paced ((e, reply) :: past) s' := by
  cases move with
  | acts move _ =>
      have agrees := paced.agrees.step move
      cases move with
      | @turns e c _ b admits move =>
          have move := moves_of_step move
          refine ⟨agrees, ?_, ?_, ?_⟩
          · show minInterval ≤ c.handle.initialDelay
            rw [move.initialDelay]
            exact paced.delay
          · intro d underWay
            simp only [Live.follow] at underWay
            split at underWay
            · exact paced.slow d underWay
            · split at underWay
              · cases underWay
                exact b.check_slow c.handle
              · cases underWay
          · exact paced.rests_turn admits move
      | @proceeds cue d d' underWay heeded =>
          -- The check under way comes to an end of the same kind as before.
          refine ⟨agrees, paced.delay, ?_, ?_⟩
          · intro other same
            cases same
            exact (paced.slow d underWay).heed heeded
          · exact paced.rests
  | @passes length _ =>
      refine ⟨paced.agrees, paced.delay, paced.slow, ?_⟩
      -- The clock and the time since the rest began go on together.
      intro call demand busy
      have before := paced.rests call demand busy
      show s.now.nanos + length.nanos + minInterval.nanos
        ≤ s.till.nanos + ((sinceOwn call past).nanos + length.nanos)
      omega

theorem paced_of_run (least : minInterval ≤ h.initialDelay)
    (run : Run Moves (opened h start) past s) : Paced past s := by
  refine run.invariant (paced_opened least start) ?_
  intro past s e reply s' paced move
  exact paced.step move

/-- Whoever goes on to check has rested since its last event for the least interval. -/
theorem Paced.wakes (paced : Paced past s) {call : Nat}
    (move : s.Moves (.act (.turn (.wake call))) reply s') : minInterval ≤ sinceOwn call past := by
  cases move with
  | acts move rested =>
      have rested : s.till.nanos ≤ s.now.nanos := rested call rfl
      cases move with
      | turns _ _ move =>
          cases moves_of_step move with
          | @wakes _ demand busy =>
              have begun := paced.rests call demand busy
              rw [Span.le_def]
              omega

/-! ## Checks -/

section Checks

variable {call : Nat} {mid early : History σ}

theorem sinceOwn_le_passed (own : ∃ x ∈ turns mid, x.1.call = call) :
    sinceOwn call (mid ++ early) ≤ passed mid := by
  induction mid with
  | nil =>
      obtain ⟨x, here, _⟩ := own
      cases here
  | cons newest mid ih =>
      rcases newest with ⟨(e | cue) | length, reply⟩
      · by_cases named : e.call = call
        · show (if e.call = call then Span.zero else sinceOwn call (mid ++ early)) ≤ passed mid
          rw [if_pos named]
          exact Nat.zero_le _
        · show (if e.call = call then Span.zero else sinceOwn call (mid ++ early)) ≤ passed mid
          rw [if_neg named]
          obtain ⟨x, here, same⟩ := own
          rcases List.mem_cons.1 here with rfl | before
          · exact absurd same named
          · exact ih ⟨x, before, same⟩
      · exact ih own
      · exact Nat.add_le_add_right (ih own) length.nanos

theorem standing_append (quiet : ∀ x ∈ turns mid, x.1.call ≠ call) :
    standing call (turns (mid ++ early)) = standing call (turns early) := by
  induction mid with
  | nil => rfl
  | cons newest mid ih =>
      rcases newest with ⟨(e | cue) | length, reply⟩
      · show (if e.call = call then _ else standing call (turns (mid ++ early))) = _
        rw [if_neg (quiet (e, reply) (List.mem_cons_self ..))]
        exact ih fun x here => quiet x (List.mem_cons_of_mem _ here)
      · exact ih quiet
      · exact ih quiet

/-- Whoever goes on to check and did not rest at an earlier moment has come to its rest since. -/
theorem Paced.rested_since (paced : Paced (mid ++ early) s)
    (move : s.Moves (.act (.turn (.wake call))) reply s')
    (awake : ∀ other, standing call (turns early) ≠ .resting other) :
    minInterval ≤ passed mid := by
  refine Nat.le_trans (paced.wakes move) (sinceOwn_le_passed ?_)
  by_contra quiet
  cases move with
  | acts live _ =>
      cases live with
      | turns _ _ turn =>
          cases moves_of_step turn with
          | @wakes _ demand resting =>
              have before : standing call (turns (mid ++ early)) = .resting demand :=
                paced.agrees.counter.stands call (.resting demand) resting
              rw [standing_append fun x here same => quiet ⟨x, here, same⟩] at before
              exact awake demand before

/-- A wait that makes a check, and did not rest at an earlier moment, either has been at the same
check since or has rested in the meantime. -/
theorem same_check_or_rested (least : minInterval ≤ h.initialDelay)
    (run : Run Moves (opened h start) (mid ++ early) s) {demand : Demand} (waits : demand ≠ .poll)
    (checks : standing call (turns (mid ++ early)) = .checking demand)
    (awake : ∀ other, standing call (turns early) ≠ .resting other) :
    (standing call (turns early) = .checking demand ∧ ∀ x ∈ turns mid, x.1.call ≠ call) ∨
      minInterval ≤ passed mid := by
  induction mid generalizing s with
  | nil =>
      refine .inl ⟨checks, ?_⟩
      intro x here
      cases here
  | cons newest mid ih =>
      obtain ⟨e, reply⟩ := newest
      cases run with
      | step soFar move =>
          have paced := paced_of_run least soFar
          cases move with
          | @passes length _ =>
              rcases ih soFar checks with same | rested
              · exact .inl same
              · exact .inr (Nat.le_trans rested (Nat.le_add_right _ _))
          | acts live due =>
              cases live with
              | proceeds _ _ => exact ih soFar checks
              | @turns e c reply b admits turn =>
                  have moved := moves_of_step turn
                  by_cases own : e.call = call
                  · right
                    have busy := (paced.agrees.counter.step moved).checking_served checks
                    rw [← own] at busy
                    obtain rfl : e = .wake call :=
                      (moved.eq_wake paced.agrees.counter busy waits).trans (congrArg _ own)
                    exact paced.rested_since (.acts (.turns b admits turn) due) awake
                  · have same : standing call (turns (mid ++ early)) = .checking demand :=
                      (if_neg own).symm.trans checks
                    rcases ih soFar same with ⟨before, quiet⟩ | rested
                    · refine .inl ⟨before, ?_⟩
                      intro x here
                      rcases List.mem_cons.1 here with rfl | older
                      · exact own
                      · exact quiet x older
                    · exact .inr rested

end Checks

end Clocked
end Counter

namespace Wait

variable {b : Backend σ} {net : Network τ} {now : Instant}

/-- The checks of a wait follow each other after the least interval at the earliest. -/
theorem visitsFrom_apart (rounds : Nat) :
    ∀ (delay : Span) (w : Wait σ τ), (visitsFrom b net now rounds delay w).Pairwise
      fun v v' => v.time + minInterval ≤ v'.time := by
  induction rounds with
  | zero =>
      intro delay w
      exact .nil
  | succ rounds ih =>
      intro delay w
      rcases pending_or_verdict (round b net now delay w).1 with ⟨next, found⟩ | ⟨answer, ends⟩
      · rw [visitsFrom_pending rounds found]
        refine .cons ?_ (ih next _)
        intro v later
        have rested : minInterval ≤ next.asRest :=
          minInterval_le_asRest (minInterval_le_of_pending found)
        exact Nat.le_trans (Nat.add_le_add_left rested _) (time_of_visit rounds next v later)
      · rw [visitsFrom_ends rounds ends]
        exact List.pairwise_singleton _ _

end Wait

namespace Counter
namespace Clocked

/-- Of a handle that was submitted, and recorded and read back any number of times: whenever a rest
of a wait ends, with any backends and networks and whatever else happens at the counter, the least
interval has passed since it began.  So if a wait is at a check and did not rest at some earlier
moment, that was in the same check or the least interval ago; and it makes no check at once.  The
same holds of the checks that a wait by itself makes.  Within one check there is one fetch of the
status, which is one GET unless that is answered with 401, and then perhaps one of the results. -/
theorem checks_keep_apart {h : Handle} (carried : h.Carried) :
    (∀ {σ : Type} {start : Span} {past : History σ} {s : Clocked σ} (call : Nat),
      Run Moves (opened h start) past s →
        (∀ reply before, (.act (.turn (.wake call)), reply) :: before <:+ past →
          minInterval ≤ sinceOwn call before) ∧
        ∀ mid early demand, mid ++ early <:+ past →
          standing call (turns (mid ++ early)) = .checking demand → demand ≠ .poll →
            (∀ other, standing call (turns early) ≠ .resting other) →
              (standing call (turns early) = .checking demand ∧ ∀ x ∈ turns mid, x.1.call ≠ call) ∨
                minInterval ≤ passed mid) ∧
      ∀ {σ τ : Type} (b : Backend σ) (net : Network τ) (now : Instant) (line : Line σ τ),
        (∀ rounds, (∀ v ∈ Wait.visits b net now rounds h line, minInterval ≤ v.time) ∧
          (Wait.visits b net now rounds h line).Pairwise
            fun v v' => v.time + minInterval ≤ v'.time) ∧
        ∃ logs, b.PolledBy net now h line logs ∧
          (b.check h).exchanges net now line = logs.flatMap FetchLog.exchanges := by
  have least := carried.unhurried.least
  refine ⟨?_, ?_⟩
  · intro σ start past s call run
    refine ⟨?_, ?_⟩
    · intro reply before older
      obtain ⟨_, woken⟩ := run.at_suffix older
      cases woken with
      | step soFar move => exact (paced_of_run least soFar).wakes move
    · intro mid early demand older checks waits awake
      obtain ⟨_, soFar⟩ := run.at_suffix older
      exact same_check_or_rested least soFar waits checks awake
  · intro σ τ b net now line
    refine ⟨?_, ?_⟩
    · intro rounds
      refine ⟨?_, Wait.visitsFrom_apart rounds h.initialDelay _⟩
      intro v here
      have rested := Wait.asRest_le_time_of_visits rounds h line v here
      exact Nat.le_trans (Wait.minInterval_le_asRest least) rested
    · obtain ⟨logs, polled, sent, _⟩ := b.polledBy_check net now h line
      exact ⟨logs, polled, sent⟩

/-- The pending job, submitted by a backend that asks for no delay and read back of its record. -/
theorem carried_pendingJob : Backend.pendingJob.Carried := by
  have valid : (⟨0, 0, 0⟩ : Instant).Valid := by decide
  have accepted : ((Handle.mute .zero).submit [⟨"bell", ""⟩]).run Handle.acceptingNetwork ⟨0, 0, 0⟩
      ⟨Plain.Session.fresh "plain", (), []⟩ = (.ok Backend.pendingJob, _) := rfl
  exact .asJson (.submitted valid accepted)
    (Handle.ofJson_toJson (Handle.reachable_delayedJob .zero).fits)

/-- A wait for that job rests before its first check, and again after a status that asks for no
delay. -/
theorem checks_keep_apart_pendingJob :
    Backend.pendingJob.Carried ∧
      (∃ (before : History Plain.Session) (s : Clocked Plain.Session),
        Run Moves (opened Backend.pendingJob .zero)
            ((.act (.turn (.wake 0)), none) :: before) s ∧
          minInterval ≤ sinceOwn 0 before) ∧
      ((Wait.visits Plain.backend (Wait.finishingAfter [.ok (Wait.running 0)]) ⟨0, 0, 0⟩ 2
          Backend.pendingJob (Wait.freshLine "plain")).map (·.time)).Pairwise
        fun first second => first + minInterval ≤ second := by
  let b := Plain.backend
  have rests : restBeforePoll.Moves (.pass minInterval) none
      { restBeforePoll with now := minInterval } := .passes (.rest rfl rfl (by decide))
  have wakes : Moves { restBeforePoll with now := minInterval } (.act (.turn (.wake 0))) none _ :=
    moves_of_turn b rfl (fun _ _ => Nat.le_refl _) nofun rfl rfl
  have run := Run.step (.step restBeforePoll_reached rests) wakes
  obtain ⟨counters, waits⟩ := checks_keep_apart carried_pendingJob
  have rested := (counters 0 run).1 none _ (List.suffix_refl _)
  obtain ⟨checks, -⟩ := waits b (Wait.finishingAfter [.ok (Wait.running 0)]) ⟨0, 0, 0⟩
    (Wait.freshLine "plain")
  exact ⟨carried_pendingJob, ⟨_, _, run, rested⟩, List.pairwise_map.2 (checks 2).2⟩

end Clocked
end Counter

namespace Wait

/-- If its token is not accepted, a check asks for the status twice, and no time passes in
between. -/
theorem asks_again_at_once :
    (visits Plain.backend (finishingAfter [.error (.transport (some 401) "expired")]) ⟨0, 0, 0⟩ 1
        Backend.pendingJob (freshLine "plain")).map (fun v => (v.time, v.sent.map (·.path)))
      = [(minInterval, [Backend.pendingJob.statusPath, Backend.pendingJob.statusPath])] := by
  decide +kernel

end Wait
end QuantumJobs

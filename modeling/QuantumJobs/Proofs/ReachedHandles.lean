import QuantumJobs.Proofs.HandleRecord
import QuantumJobs.Proofs.PollVerdict

/-!
# ReachedHandles — the handles that can come about, and their records

A handle comes from a submission, and polls and waits make others of it.  Whatever comes about this
way fits the machine types if the backends and networks deal in values that do, so its record is
read back.  What comes back is equal to it but for a fraction of a millisecond in its initial delay
and a response of null in its failure, which is told as the same fault all the same.
-/

namespace QuantumJobs

variable {σ τ : Type}

/-! ## Values that fit -/

def Fault.Fits : Fault → Prop
  | .jobFailed code _ => ∀ c, code = some c → Json.minSigned ≤ c ∧ c ≤ Json.maxSigned
  | .malformedResponse _ response => response.Fits
  | .transport status _ => ∀ s, status = some s → s < 65536
  | _ => True

/-- A network whose messages fit. -/
def Network.Fits (net : Network τ) : Prop :=
  ∀ r wire m, (net.answer r wire).1 = .ok m → m.Fits

/-- A backend that makes only such faults and results of messages that fit as fit themselves. -/
structure Backend.Fits (b : Backend σ) : Prop where
  isDone : ∀ s m fault, m.Fits → b.isDone s m = .error fault → fault.Fits
  noResult : ∀ s m job fault, m.Fits → (b.results m job s).1 = .error fault → fault.Fits
  result : ∀ s m job result, m.Fits → (b.results m job s).1 = .ok result → result.Fits

/-- A failure that keeps neither a code nor a response fits. -/
theorem Failure.fits_of_bare {f : Failure} (noCode : f.code = none)
    (noResponse : f.response = none) : f.Fits where
  code := by
    intro c kept
    rw [noCode] at kept
    cases kept
  response := by
    intro v kept
    rw [noResponse] at kept
    cases kept

theorem Failure.fits_ofFault {fault : Fault} (fits : fault.Fits) :
    (Failure.ofFault fault).Fits := by
  cases fault with
  | jobFailed code message =>
      refine ⟨fits, ?_⟩
      intro v kept
      cases kept
  | malformedResponse reason response =>
      refine ⟨?_, ?_⟩
      · intro c kept
        cases kept
      · intro v kept
        cases kept
        exact fits
  | transport status message =>
      refine ⟨?_, ?_⟩
      · intro c kept
        obtain ⟨s, here, rfl⟩ := Option.map_eq_some_iff.1 kept
        have small := fits s here
        show -9223372036854775808 ≤ (s : Int) ∧ (s : Int) ≤ 9223372036854775807
        omega
      · intro v kept
        cases kept
  | _ => exact fits_of_bare rfl rfl

/-- Naming executions does not touch their counts. -/
theorem SampleResult.fits_nameByKernels {r : SampleResult} (fits : r.Fits) (kernels : List String) :
    (r.nameByKernels kernels).Fits := by
  unfold nameByKernels
  by_cases fit : r.executions.length = kernels.length
  · rw [if_pos fit]
    intro named here
    obtain ⟨i, bound, same⟩ := List.getElem_of_mem here
    simp only [List.length_zipWith] at bound
    rw [List.getElem_zipWith] at same
    -- A name may be replaced, the counts stay.
    have counts : named.counts = (r.executions[i]).counts := by
      rw [← same]
      unfold nameAt
      split <;> rfl
    rw [counts]
    exact fits _ (List.getElem_mem _)
  · rw [if_neg fit]
    exact fits

/-! ## Checks -/

variable {b : Backend σ} {net : Network τ} {now : Instant} {h : Handle} {line : Line σ τ}

theorem Backend.fits_of_fetched (netFits : net.Fits) {path : String} {m : Json}
    {line' : Line σ τ} (fetched : b.Fetched net now path line (.ok m) line') : m.Fits := by
  cases fetched with
  | accepted got _ => exact netFits _ _ m (congrArg Prod.fst got)
  | repeated _ _ got => exact netFits _ _ m (congrArg Prod.fst got)

theorem Backend.fits_of_collected (netFits : net.Fits) {m : Json} {line' : Line σ τ}
    (collected : b.Collected net now h line (.ok m) line') : m.Fits := by
  cases collected with
  | intro status _ message =>
      cases message with
      | status _ => exact fits_of_fetched netFits status
      | separate _ fetched => exact fits_of_fetched netFits fetched

/-- Whatever a check ends a job with fits. -/
theorem Backend.fits_of_check (bFits : b.Fits) (netFits : net.Fits) (now : Instant) (h : Handle)
    (line : Line σ τ) {o : JobOutcome}
    (ends : ((b.check h).run net now line).1.outcome? = some o) : o.Fits := by
  have finds : b.Finds net now h line ((b.check h).run net now line).1 := finds_iff.2 rfl
  generalize ((b.check h).run net now line).1 = c at *
  cases finds with
  | noStatus _ => cases ends
  | badStatus fetched isDone =>
      cases ends
      have status := fits_of_fetched netFits fetched
      exact Failure.fits_ofFault (bFits.isDone _ _ _ status isDone)
  | notDone _ _ => cases ends
  | noResults _ => cases ends
  | badResults collected results =>
      cases ends
      have message := fits_of_collected netFits collected
      exact Failure.fits_ofFault (bFits.noResult _ _ _ _ message results)
  | results collected results =>
      cases ends
      have message := fits_of_collected netFits collected
      apply SampleResult.fits_nameByKernels
      exact bFits.result _ _ _ _ message results

namespace Handle

theorem Fits.settle (fits : h.Fits) {c : Check} (ends : ∀ o, c.outcome? = some o → o.Fits) :
    (h.settle c).Fits := by
  unfold Handle.settle
  cases found : c.outcome? with
  -- A check that ends nothing leaves the handle, and so does one that comes after the end.
  | none => exact fits
  | some o =>
      unfold resolve
      cases outcome : h.outcome with
      | some _ => exact fits
      | none =>
          refine ⟨fits.submittedAt, ?_⟩
          intro o' same
          cases same
          exact ends o found

/-! ## Handles that come about -/

/-- The handles that a submission and any polls and waits after it can lead to, with any backends
and networks.  A wait makes as many checks as it is given, so one that is dropped between two
checks is among them. -/
inductive Reachable : Handle → Prop where
  | submitted {σ τ : Type} {b : Backend σ} {net : Network τ} {now : Instant}
      {kernels : List Kernel} {line line' : Line σ τ} {h : Handle} :
      now.Valid → (b.submit kernels).run net now line = (.ok h, line') → Reachable h
  | polled {σ τ : Type} {b : Backend σ} {net : Network τ} {h : Handle} (now : Instant)
      (line : Line σ τ) :
      b.Fits → net.Fits → Reachable h → Reachable ((b.poll h).run net now line).1.2
  | waited {σ τ : Type} {b : Backend σ} {net : Network τ} {h : Handle} (now : Instant)
      (rounds : Nat) (line : Line σ τ) :
      b.Fits → net.Fits → Reachable h → Reachable (Wait.run b net now rounds h line).2.handle
  | waitedUntil {σ τ : Type} {b : Backend σ} {net : Network τ} {h : Handle} (now : Instant)
      (patience : Span) (line : Line σ τ) :
      b.Fits → net.Fits → Reachable h → Reachable (Wait.runUntil b net now patience h line).2.handle

/-- A handle that is submitted has been accepted on some answer, by the backend as it stood. -/
theorem accepted_of_submit {kernels : List Kernel} {line' : Line σ τ}
    (submitted : (b.submit kernels).run net now line = (.ok h, line')) :
    ∃ response, b.accept line.state kernels response now = .ok h := by
  unfold Backend.submit at submitted
  by_cases empty : kernels.isEmpty = true
  · rw [if_pos empty] at submitted
    cases submitted
  · rw [if_neg empty] at submitted
    simp only [Dialogue.run_bind, Dialogue.run_state] at submitted
    cases payload : b.payload line.state kernels with
    | error fault =>
        rw [payload] at submitted
        cases submitted
    | ok p =>
        rw [payload] at submitted
        simp only [Dialogue.run_bind, Dialogue.run_request] at submitted
        cases answer : (net.answer (.post (b.baseUrl line.state) p.path p.headers p.body)
            line.wire).1 with
        | error fault =>
            rw [answer] at submitted
            cases submitted
        | ok response =>
            rw [answer] at submitted
            simp only [Dialogue.run_bind, Dialogue.run_state, Dialogue.run_now,
              Dialogue.run_pure] at submitted
            exact ⟨response, congrArg Prod.fst submitted⟩

/-- An accepted handle is pending, bears the time of its acceptance, keeps what the backend persists
and names the kernels. -/
theorem of_accept {s : σ} {kernels : List Kernel} {response : Json}
    (accepted : b.accept s kernels response now = .ok h) :
    h.outcome = none ∧ h.submittedAt = now ∧ h.config = b.persisted s ∧
      h.kernels = kernels.map (·.name) := by
  obtain ⟨job, _, accepted⟩ := of_bind_ok accepted
  cases accepted
  exact ⟨rfl, rfl, rfl, rfl⟩

theorem Fits.poll (fits : h.Fits) (bFits : b.Fits) (netFits : net.Fits) (now : Instant)
    (line : Line σ τ) : ((b.poll h).run net now line).1.2.Fits := by
  unfold Backend.poll
  simp only [Dialogue.run_bind, Dialogue.run_state]
  cases h.known? (b.name line.state) with
  | some answer => exact fits
  | none =>
      simp only [Dialogue.run_bind, Dialogue.run_pure]
      exact fits.settle fun _ ends => Backend.fits_of_check bFits netFits now h line ends

theorem Fits.round (bFits : b.Fits) (netFits : net.Fits) (now : Instant) (delay : Span)
    {w : Wait σ τ} (fits : w.handle.Fits) : (Wait.round b net now delay w).2.handle.Fits :=
  fits.settle fun _ ends => Backend.fits_of_check bFits netFits now w.handle w.line ends

theorem Fits.loop (bFits : b.Fits) (netFits : net.Fits) (now : Instant) :
    ∀ (rounds : Nat) (delay : Span) {w : Wait σ τ}, w.handle.Fits →
      (Wait.loop b net now rounds delay w).2.handle.Fits := by
  intro rounds
  induction rounds with
  | zero =>
      intro delay w fits
      exact fits
  | succ rounds ih =>
      intro delay w fits
      have next := Fits.round bFits netFits now delay fits
      unfold Wait.loop
      split
      · rename_i found
        rw [found] at next
        exact ih _ next
      · rename_i found
        rw [found] at next
        exact next

theorem Fits.loopUntil (bFits : b.Fits) (netFits : net.Fits) (now : Instant) (deadline : Span) :
    ∀ (rounds : Nat) (delay : Span) {w : Wait σ τ}, w.handle.Fits →
      (Wait.loopUntil b net now deadline rounds delay w).2.handle.Fits := by
  intro rounds
  induction rounds with
  | zero =>
      intro delay w fits
      exact fits
  | succ rounds ih =>
      intro delay w fits
      have next := Fits.round bFits netFits now delay fits
      unfold Wait.loopUntil
      split
      · split
        · rename_i found
          rw [found] at next
          exact ih _ next
        · rename_i found
          rw [found] at next
          exact next
      · exact fits

theorem Fits.run (fits : h.Fits) (bFits : b.Fits) (netFits : net.Fits) (now : Instant)
    (rounds : Nat) (line : Line σ τ) : (Wait.run b net now rounds h line).2.handle.Fits := by
  simp only [Wait.run]
  split
  · exact fits
  · exact Fits.loop bFits netFits now rounds h.initialDelay fits

theorem Fits.runUntil (fits : h.Fits) (bFits : b.Fits) (netFits : net.Fits) (now : Instant)
    (patience : Span) (line : Line σ τ) :
    (Wait.runUntil b net now patience h line).2.handle.Fits := by
  simp only [Wait.runUntil]
  split
  · exact fits
  · exact Fits.loopUntil bFits netFits now patience.wholeMillis _ h.initialDelay fits

/-- Whatever handle comes about fits. -/
theorem Reachable.fits (reachable : h.Reachable) : h.Fits := by
  induction reachable with
  | submitted valid submitted =>
      obtain ⟨_, accepted⟩ := accepted_of_submit submitted
      obtain ⟨pending, time, _⟩ := of_accept accepted
      refine ⟨?_, ?_⟩
      · rw [time]
        exact valid
      · intro o settled
        rw [pending] at settled
        cases settled
  | polled now line bFits netFits _ ih => exact ih.poll bFits netFits now line
  | waited now rounds line bFits netFits _ ih => exact ih.run bFits netFits now rounds line
  | waitedUntil now patience line bFits netFits _ ih =>
      exact ih.runUntil bFits netFits now patience line

/-! ## Handles of a backend that reads nothing -/

/-- The plain backend, but it can read no message, and it asks for a fixed delay. -/
def mute (delay : Span) : Backend Plain.Session :=
  { Plain.backend with
    isDone := fun _ m => .error (.malformedResponse "unreadable" m)
    results := fun m _ s => (.error (.malformedResponse "unreadable" m), s)
    interval := fun _ _ => delay }

theorem fits_mute (delay : Span) : (mute delay).Fits where
  isDone := by
    intro s m fault fits failed
    cases failed
    exact fits
  noResult := by
    intro s m job fault fits failed
    cases failed
    exact fits
  result := by
    intro s m job result _ read
    cases read

/-- A network that accepts every job under one name. -/
def acceptingNetwork : Network Unit := ⟨fun _ s => (.ok (.obj [("id", .str "j-1")]), s)⟩

theorem fits_nullNetwork : Backend.nullNetwork.Fits := by
  intro r wire m answered
  cases answered
  exact ⟨rfl, rfl⟩

/-- A job that was submitted when a backend asked for a delay. -/
def delayedJob (delay : Span) : Handle :=
  { Backend.pendingJob with initialDelay := max delay minInterval }

theorem reachable_delayedJob (delay : Span) : (delayedJob delay).Reachable := by
  have valid : (⟨0, 0, 0⟩ : Instant).Valid := by decide
  have submitted : (((mute delay).submit [⟨"bell", ""⟩]).run acceptingNetwork ⟨0, 0, 0⟩
      ⟨Plain.Session.fresh "plain", (), []⟩).1 = .ok (delayedJob delay) := rfl
  exact .submitted valid (Prod.ext submitted rfl)

/-- The job once its status has been answered with null. -/
def refusedJob : Handle :=
  (((mute minInterval).poll (delayedJob minInterval)).run Backend.nullNetwork ⟨0, 0, 0⟩
    ⟨Plain.Session.fresh "plain", (), []⟩).1.2

theorem reachable_refusedJob : refusedJob.Reachable :=
  .polled _ _ (fits_mute _) fits_nullNetwork (reachable_delayedJob _)

/-! ## What comes back -/

/-- The handle's job has failed on a response of null. -/
def KeepsNull (h : Handle) : Prop :=
  ∃ failure, h.outcome = some (.failed failure) ∧ failure.response = some .null

/-- An outcome comes back as it was unless it keeps null. -/
theorem restored_outcome (keeps : ¬ h.KeepsNull) : h.restored.outcome = h.outcome := by
  show h.outcome.map JobOutcome.restored = h.outcome
  cases outcome : h.outcome with
  | none => rfl
  | some o =>
      cases o with
      | done result => rfl
      | failed failure =>
          have notNull : failure.response ≠ some .null := by
            intro null
            exact keeps ⟨failure, outcome, null⟩
          have same : failure.restored = failure := by
            obtain ⟨kind, code, message, response⟩ := failure
            unfold Failure.restored
            cases response with
            | none => rfl
            | some v =>
                cases v with
                | null => exact absurd rfl notNull
                | _ => rfl
          simp [JobOutcome.restored, same]

/-- Handles are compared field by field. -/
theorem beq_eq (h g : Handle) :
    (h == g) = (h.backend == g.backend && (h.job == g.job && (h.statusPath == g.statusPath &&
      (h.config == g.config && (h.kernels == g.kernels && (h.initialDelay == g.initialDelay &&
        (h.submittedAt == g.submittedAt && h.outcome == g.outcome))))))) := by
  cases h
  cases g
  rfl

/-- An outcome that fits equals itself. -/
theorem beq_outcome_self {h : Handle} (fits : h.Fits) : (h.outcome == h.outcome) = true := by
  cases outcome : h.outcome with
  | none => rfl
  | some o =>
      have oFits := fits.outcome o outcome
      cases o with
      | done result => exact beq_self_eq_true result
      | failed failure =>
          have response : (failure.response == failure.response) = true := by
            cases kept : failure.response with
            | none => rfl
            | some v => exact (oFits.response v kept).2
          show (failure.kind == failure.kind && (failure.code == failure.code &&
            (failure.message == failure.message && failure.response == failure.response))) = true
          simp [response]

/-- A delay comes back as it was exactly if it is a whole number of milliseconds that a word of
sixty-four bits holds. -/
theorem ofMillis_delayMillis_iff (h : Handle) :
    Span.ofMillis h.delayMillis = h.initialDelay ↔
      ∃ n, n ≤ Json.maxUnsigned ∧ h.initialDelay = .ofMillis n := by
  constructor
  · intro same
    exact ⟨h.delayMillis, Nat.min_le_right _ _, same.symm⟩
  · rintro ⟨n, fits, whole⟩
    unfold delayMillis
    rw [whole, Span.millis_ofMillis, Nat.min_eq_left fits]

/-- A failure that keeps null comes back without it, and is then another one. -/
theorem beq_outcome_of_keepsNull (keeps : h.KeepsNull) :
    (h.restored.outcome == h.outcome) = false := by
  obtain ⟨failure, outcome, response⟩ := keeps
  have cut : failure.restored.response = none := by
    show failure.response.filter _ = none
    rw [response]
    rfl
  rw [outcome_restored_of_failed outcome, outcome]
  show (failure.restored.kind == failure.kind && (failure.restored.code == failure.code &&
    (failure.restored.message == failure.message &&
      failure.restored.response == failure.response))) = false
  have differ : (failure.restored.response == failure.response) = false := by
    rw [cut, response]
    rfl
  simp [differ]

/-- What comes back is equal to a handle exactly if its delay was whole and it keeps no null. -/
theorem beq_restored_iff (fits : h.Fits) :
    (h.restored == h) = true ↔
      ¬ h.KeepsNull ∧ ∃ n, n ≤ Json.maxUnsigned ∧ h.initialDelay = .ofMillis n := by
  by_cases keeps : h.KeepsNull
  · have differ := beq_outcome_of_keepsNull keeps
    rw [beq_eq, differ]
    simp [keeps]
  · have same := restored_outcome keeps
    -- All fields but the delay are the handle's own.
    rw [← ofMillis_delayMillis_iff, beq_eq, same, beq_outcome_self fits]
    simp [restored, keeps]

/-- A handle that keeps null, or whose delay was not whole, comes back different. -/
theorem differs_of_not (reachable : h.Reachable)
    (fails : ¬ (¬ h.KeepsNull ∧ ∃ n, n ≤ Json.maxUnsigned ∧ h.initialDelay = .ofMillis n)) :
    ∃ h', ofJson h.toJson = .ok h' ∧ (h' == h) = false := by
  refine ⟨h.restored, ofJson_toJson reachable.fits, ?_⟩
  rw [Bool.eq_false_iff]
  intro same
  exact fails ((beq_restored_iff reachable.fits).1 same)

/-- The record of every handle that can come about is read back.  What comes back has the handle's
fields, with the initial delay in whole milliseconds as far as a word of sixty-four bits holds
them; a job that has failed has failed there too, with the same kind, code and message, and gives
the same fault; and unless it failed on a response of null it has the same outcome, and is equal to
the handle exactly if the delay was whole. -/
theorem record_of_reachable (reachable : h.Reachable) :
    ∃ h', ofJson h.toJson = .ok h' ∧ h'.backend = h.backend ∧ h'.job = h.job ∧
      h'.statusPath = h.statusPath ∧ h'.config = h.config ∧ h'.kernels = h.kernels ∧
      h'.submittedAt = h.submittedAt ∧
      h'.initialDelay = .ofMillis (min h.initialDelay.millis Json.maxUnsigned) ∧
      (∀ failure, h.outcome = some (.failed failure) →
        ∃ failure', h'.outcome = some (.failed failure') ∧ failure'.kind = failure.kind ∧
          failure'.code = failure.code ∧ failure'.message = failure.message ∧
          failure'.toFault = failure.toFault) ∧
      (¬ h.KeepsNull → h'.outcome = h.outcome ∧
        ((h' == h) = true ↔ ∃ n, n ≤ Json.maxUnsigned ∧ h.initialDelay = .ofMillis n)) := by
  have fits := reachable.fits
  refine ⟨h.restored, ofJson_toJson fits, rfl, rfl, rfl, rfl, rfl, rfl, rfl, ?_, ?_⟩
  · intro failure failed
    exact ⟨failure.restored, outcome_restored_of_failed failed, rfl, rfl, rfl,
      failure.toFault_restored⟩
  · intro keeps
    refine ⟨restored_outcome keeps, ?_⟩
    rw [beq_restored_iff fits]
    exact and_iff_right keeps

/-- The shortest delay is whole, so the job comes back as it was; and once its status has been
answered with null it comes back failed. -/
theorem record_of_delayedJob :
    (delayedJob minInterval).Reachable ∧ (∃ h', ofJson (delayedJob minInterval).toJson = .ok h' ∧
      h'.outcome = none ∧ (h' == delayedJob minInterval) = true) ∧
    refusedJob.Reachable ∧ ∃ h' failure, ofJson refusedJob.toJson = .ok h' ∧
      h'.outcome = some (.failed failure) ∧ failure.kind = .malformedResponse ∧
      failure.code = none ∧ failure.message = "unreadable" ∧
      failure.toFault = .malformedResponse "unreadable" .null := by
  refine ⟨reachable_delayedJob _, ?_, reachable_refusedJob, ?_⟩
  · obtain ⟨h', read, _, _, _, _, _, _, _, _, same⟩ :=
      record_of_reachable (reachable_delayedJob minInterval)
    have keeps : ¬ (delayedJob minInterval).KeepsNull := by
      rintro ⟨failure, outcome, _⟩
      cases outcome
    obtain ⟨outcome, whole⟩ := same keeps
    have tenth : ∃ n, n ≤ Json.maxUnsigned ∧ (delayedJob minInterval).initialDelay = .ofMillis n :=
      ⟨10, by decide, rfl⟩
    exact ⟨h', read, outcome, whole.2 tenth⟩
  · obtain ⟨h', read, _, _, _, _, _, _, _, failed, _⟩ := record_of_reachable reachable_refusedJob
    obtain ⟨failure, outcome, kind, code, message, fault⟩ := failed _ rfl
    exact ⟨h', failure, read, outcome, kind, code, message, fault⟩

/-- Half a millisecond of a delay is lost, so is what a word of sixty-four bits does not hold, and
so is a response of null. -/
theorem records_that_differ :
    ((delayedJob ⟨10500000⟩).Reachable ∧ ∃ h', ofJson (delayedJob ⟨10500000⟩).toJson = .ok h' ∧
      (h' == delayedJob ⟨10500000⟩) = false) ∧
    ((delayedJob (.ofMillis (Json.maxUnsigned + 1))).Reachable ∧
      ∃ h', ofJson (delayedJob (.ofMillis (Json.maxUnsigned + 1))).toJson = .ok h' ∧
        (h' == delayedJob (.ofMillis (Json.maxUnsigned + 1))) = false) ∧
    (refusedJob.Reachable ∧ ∃ h', ofJson refusedJob.toJson = .ok h' ∧
      (h' == refusedJob) = false) := by
  refine ⟨⟨reachable_delayedJob _, ?_⟩, ⟨reachable_delayedJob _, ?_⟩, ⟨reachable_refusedJob, ?_⟩⟩
  · refine differs_of_not (reachable_delayedJob _) ?_
    rintro ⟨_, n, _, whole⟩
    have nanos : 10500000 = n * 1000000 := congrArg Span.nanos whole
    omega
  · refine differs_of_not (reachable_delayedJob _) ?_
    rintro ⟨_, n, small, whole⟩
    have nanos : (Json.maxUnsigned + 1) * 1000000 = n * 1000000 := congrArg Span.nanos whole
    omega
  · refine differs_of_not reachable_refusedJob ?_
    rintro ⟨keeps, _⟩
    exact keeps ⟨_, rfl, rfl⟩

end Handle
end QuantumJobs

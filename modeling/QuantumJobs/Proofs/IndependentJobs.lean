import Mathlib.Logic.Function.Basic
import QuantumJobs.Fermioniq.Session
import QuantumJobs.Proofs.PreparedAnswers
import QuantumJobs.Proofs.WaitSteps

/-!
# IndependentJobs — jobs that are polled over one line

Jobs share a session, and their polls share a network.  As long as no answer is a 401, a poll leaves
the session alone and takes only from the queues of its own job's routes.  So what a job is answered
depends on how often it is polled, and not on the polls of other jobs in between.
-/

namespace QuantumJobs

open Fermioniq (Session)
open Backend (isUnauthorized)

variable {σ α β : Type}

/-! ## Prepared answers -/

namespace Script

variable {s s' : Script} {r : Request}

theorem isUnauthorized_restated (a : Outcome Json) :
    isUnauthorized (restated a) = isUnauthorized a := by
  cases a with
  | ok m => rfl
  | error fault => cases fault <;> rfl

/-- A route whose queue has no 401 gives none. -/
theorem isUnauthorized_answer
    (accepted : ∀ a ∈ s.queue r.route, isUnauthorized a = false) :
    isUnauthorized (answer r s).1 = false := by
  rw [answer_eq]
  cases taken : (s.take r.route).1 with
  | nothing => rfl
  | removed a => exact accepted a (Queues.mem_of_take (.inl taken))
  | kept a =>
      show isUnauthorized (restated a) = false
      rw [isUnauthorized_restated]
      exact accepted a (Queues.mem_of_take (.inr taken))

end Script

/-! ## Lines on some routes -/

namespace Line

/-- The requests that were sent on a route. -/
def sentOn (line : Line σ Script) (route : Route) : List Request :=
  line.sent.filter (·.route = route)

/-- Two lines are the same to whoever uses only some routes. -/
structure AgreeOn (routes : List Route) (line line' : Line σ Script) : Prop where
  state : line.state = line'.state
  queue : ∀ route ∈ routes, line.wire.queue route = line'.wire.queue route
  sentOn : ∀ route ∈ routes, line.sentOn route = line'.sentOn route

/-- No 401 is queued for some routes. -/
def Accepts (routes : List Route) (line : Line σ Script) : Prop :=
  ∀ route ∈ routes, ∀ a ∈ line.wire.queue route, isUnauthorized a = false

namespace AgreeOn

variable {routes : List Route} {a b c : Line σ Script}

theorem refl (a : Line σ Script) : a.AgreeOn routes a := ⟨rfl, fun _ _ => rfl, fun _ _ => rfl⟩

theorem symm (first : a.AgreeOn routes b) : b.AgreeOn routes a where
  state := first.state.symm
  queue route here := (first.queue route here).symm
  sentOn route here := (first.sentOn route here).symm

theorem trans (first : a.AgreeOn routes b) (second : b.AgreeOn routes c) : a.AgreeOn routes c where
  state := first.state.trans second.state
  queue route here := (first.queue route here).trans (second.queue route here)
  sentOn route here := (first.sentOn route here).trans (second.sentOn route here)

theorem accepts (agree : a.AgreeOn routes b) (accepts : a.Accepts routes) : b.Accepts routes := by
  intro route here answer queued
  exact accepts route here answer (agree.queue route here ▸ queued)

end AgreeOn

/-- The line after a request. -/
def ask (r : Request) (line : Line σ Script) : Line σ Script :=
  { line with wire := (Script.answer r line.wire).2, sent := line.sent ++ [r] }

variable {r : Request} {line line' : Line σ Script} {routes : List Route}

theorem queue_ask_subset (r : Request) (line : Line σ Script) (route : Route) :
    (line.ask r).wire.queue route ⊆ line.wire.queue route := by
  show (Script.answer r line.wire).2.queue route ⊆ _
  rw [Script.answer_eq]
  exact Queues.queue_take_subset

theorem sentOn_ask (r : Request) (line : Line σ Script) (route : Route) :
    (line.ask r).sentOn route = line.sentOn route ++ [r].filter (·.route = route) :=
  List.filter_append _ _

/-- Other routes are not touched by a request. -/
theorem agreeOn_ask (other : r.route ∉ routes) : line.AgreeOn routes (line.ask r) where
  state := rfl
  queue route here := by
    have apart : route ≠ r.route := fun same => other (same ▸ here)
    show _ = (Script.answer r line.wire).2.queue route
    rw [Script.answer_eq]
    exact (Queues.queue_take_of_ne apart).symm
  sentOn route here := by
    have apart : r.route ≠ route := fun same => other (same ▸ here)
    rw [sentOn_ask]
    simp [apart]

theorem Accepts.ask (accepts : line.Accepts routes) (r : Request) : (line.ask r).Accepts routes :=
  fun route here a queued => accepts route here a (line.queue_ask_subset r route queued)

/-- Lines that agree on the route of a request give it the same answer and go on in agreement. -/
theorem AgreeOn.ask (agree : line.AgreeOn routes line') (own : r.route ∈ routes) :
    (Script.answer r line.wire).1 = (Script.answer r line'.wire).1 ∧
      (line.ask r).AgreeOn routes (line'.ask r) := by
  obtain ⟨taken, left⟩ := Queues.take_congr (agree.queue _ own)
  refine ⟨?_, agree.state, ?_, ?_⟩
  · rw [Script.answer_eq, Script.answer_eq, taken]
  · intro route here
    show (Script.answer r line.wire).2.queue route = (Script.answer r line'.wire).2.queue route
    rw [Script.answer_eq, Script.answer_eq]
    by_cases same : route = r.route
    · subst same
      exact left
    · show (line.wire.take r.route).2.queue route = (line'.wire.take r.route).2.queue route
      rw [Queues.queue_take_of_ne same, Queues.queue_take_of_ne same, agree.queue route here]
  · intro route here
    rw [sentOn_ask, sentOn_ask, agree.sentOn route here]

end Line

/-! ## Dialogues on some routes -/

namespace Dialogue

/-- As long as no answer is a 401, a dialogue sends requests on some routes only, does not change
its state and does not ask for the time. -/
inductive KeepsTo (routes : List Route) : Dialogue σ α → Prop where
  | done (a : α) : KeepsTo routes (.done a)
  | look {f : σ → σ} {next : σ → Dialogue σ α} :
      (∀ s, f s = s) → (∀ s, KeepsTo routes (next s)) → KeepsTo routes (.change f next)
  | send {r : Request} {next : Outcome Json → Dialogue σ α} :
      r.route ∈ routes → (∀ answer, isUnauthorized answer = false → KeepsTo routes (next answer)) →
        KeepsTo routes (.send r next)

namespace KeepsTo

variable {routes others : List Route} {d : Dialogue σ α} {k : α → Dialogue σ β}

theorem bind (first : d.KeepsTo routes) (next : ∀ a, (k a).KeepsTo routes) :
    (d >>= k).KeepsTo routes := by
  show (d.bind k).KeepsTo routes
  induction first with
  | done a => exact next a
  | look same _ ih => exact .look same ih
  | send own _ ih => exact .send own ih

theorem state : (Dialogue.state (σ := σ)).KeepsTo routes := .look (fun _ => rfl) .done

variable {line line' : Line σ Script} (time time' : Instant)

theorem run_send (r : Request) (next : Outcome Json → Dialogue σ α) (line : Line σ Script) :
    run Script.network time (.send r next) line
      = run Script.network time (next (Script.answer r line.wire).1) (line.ask r) := rfl

theorem run_look {f : σ → σ} (same : ∀ s, f s = s) (next : σ → Dialogue σ α)
    (line : Line σ Script) :
    run Script.network time (.change f next) line
      = run Script.network time (next line.state) line := by
  show run Script.network time (next line.state) { line with state := f line.state } = _
  rw [same]

/-- On lines that agree a dialogue that keeps to their routes has the same value, at whatever times
it is run, and leaves them in agreement. -/
theorem run_congr (keeps : d.KeepsTo routes) (accepts : line.Accepts routes)
    (agree : line.AgreeOn routes line') :
    (d.run Script.network time line).1 = (d.run Script.network time' line').1 ∧
      (d.run Script.network time line).2.AgreeOn routes (d.run Script.network time' line').2 := by
  induction keeps generalizing line line' with
  | done a => exact ⟨rfl, agree⟩
  | look same _ ih =>
      rw [run_look time same, run_look time' same, agree.state]
      exact ih line'.state accepts agree
  | @send r _ own _ ih =>
      obtain ⟨answer, after⟩ := agree.ask own
      rw [run_send, run_send, ← answer]
      exact ih _ (Script.isUnauthorized_answer (accepts r.route own)) (accepts.ask r) after

/-- A dialogue that keeps to some routes leaves the other ones as they are. -/
theorem agreeOn_run (keeps : d.KeepsTo routes) (accepts : line.Accepts routes)
    (apart : ∀ route ∈ others, route ∉ routes) :
    line.AgreeOn others (d.run Script.network time line).2 := by
  induction keeps generalizing line with
  | done a => exact .refl line
  | look same _ ih =>
      rw [run_look time same]
      exact ih line.state accepts
  | @send r _ own _ ih =>
      have other : r.route ∉ others := fun here => apart _ here own
      rw [run_send]
      exact (Line.agreeOn_ask other).trans
        (ih _ (Script.isUnauthorized_answer (accepts r.route own)) (accepts.ask r))

end KeepsTo

/-- No dialogue makes an answer be queued. -/
theorem accepts_run (d : Dialogue σ α) (time : Instant) {routes : List Route}
    {line : Line σ Script} (accepts : line.Accepts routes) :
    (d.run Script.network time line).2.Accepts routes := by
  induction d generalizing line with
  | done _ => exact accepts
  | change _ _ ih => exact ih line.state accepts
  | clock _ ih => exact ih time accepts
  | send r _ ih => exact ih _ (accepts.ask r)

end Dialogue

/-! ## Polls -/

/-- The routes on which a Fermioniq job is polled. -/
def Handle.routes (h : Handle) : List Route :=
  [(.get, h.statusPath), (.get, Session.resultsPath h.job)]

theorem Handle.SameJob.routes {h g : Handle} (same : h.SameJob g) : g.routes = h.routes := by
  rw [same]
  rfl

namespace Fermioniq

open Dialogue (KeepsTo)

variable {routes : List Route}

theorem keepsTo_fetch {path : String} (own : (.get, path) ∈ routes) :
    (backend.fetch path).KeepsTo routes := by
  refine .look (fun _ => rfl) fun s => .send own fun answer accepted => ?_
  show (if isUnauthorized answer then _ else _ : Dialogue Session (Outcome Json)).KeepsTo routes
  rw [accepted]
  exact .done answer

theorem keepsTo_readResults (h : Handle) (m : Json) : (backend.readResults h m).KeepsTo routes := by
  refine .look (fun _ => rfl) fun s => ?_
  cases (backend.results m h.job s).1 with
  | error fault => exact .done _
  | ok result => exact .done _

/-- As long as no answer is a 401, a check of a job sends its requests on the job's routes. -/
theorem keepsTo_check (h : Handle) : (backend.check h).KeepsTo h.routes := by
  refine (keepsTo_fetch (by simp [Handle.routes])).bind fun answer => ?_
  cases answer with
  | error fault => exact .done _
  | ok status =>
      refine KeepsTo.state.bind fun s => ?_
      rcases backend.isDone s status with fault | _ | _
      · exact .done _
      · exact .done _
      · refine KeepsTo.state.bind fun s => ?_
        refine (keepsTo_fetch (by simp [Handle.routes])).bind fun answer => ?_
        cases answer with
        | error fault => exact .done _
        | ok m => exact keepsTo_readResults h m

theorem keepsTo_poll (h : Handle) : (backend.poll h).KeepsTo h.routes := by
  refine KeepsTo.state.bind fun s => ?_
  cases h.known? (backend.name s) with
  | some answer => exact .done _
  | none => exact (keepsTo_check h).bind fun c => .done _

end Fermioniq

/-! ## Jobs that share a line -/

/-- Jobs, by what they are told apart, and the line over which they are polled. -/
structure Batch (ι : Type) where
  handles : ι → Handle
  line : Line Session Script

namespace Batch

variable {ι : Type}

/-- The run of a poll of one of the jobs. -/
def run (i : ι) (time : Instant) (b : Batch ι) : (Outcome Poll × Handle) × Line Session Script :=
  (Fermioniq.backend.poll (b.handles i)).run Script.network time b.line

theorem sameJob_run (i : ι) (time : Instant) (b : Batch ι) :
    (b.handles i).SameJob (b.run i time).1.2 :=
  Handle.sameJob_of_poll (rfl : b.run i time = ((_, (b.run i time).1.2), _))

/-- The handles are those of jobs with given routes, and no 401 is queued for these. -/
structure Ready (routes : ι → List Route) (b : Batch ι) : Prop where
  own : ∀ i, (b.handles i).routes = routes i
  accepts : ∀ i, b.line.Accepts (routes i)

/-- Two batches are the same to one of the jobs. -/
structure AgreeOn (routes : ι → List Route) (i : ι) (b c : Batch ι) : Prop where
  handle : b.handles i = c.handles i
  line : b.line.AgreeOn (routes i) c.line

variable {routes : ι → List Route} {b c : Batch ι} {i j : ι}

theorem AgreeOn.refl (b : Batch ι) : b.AgreeOn routes i b := ⟨rfl, .refl b.line⟩

theorem AgreeOn.symm (agree : b.AgreeOn routes i c) : c.AgreeOn routes i b :=
  ⟨agree.handle.symm, agree.line.symm⟩

theorem AgreeOn.trans {d : Batch ι} (first : b.AgreeOn routes i c) (second : c.AgreeOn routes i d) :
    b.AgreeOn routes i d :=
  ⟨first.handle.trans second.handle, first.line.trans second.line⟩

theorem Ready.keepsTo (ready : b.Ready routes) (i : ι) :
    (Fermioniq.backend.poll (b.handles i)).KeepsTo (routes i) :=
  ready.own i ▸ Fermioniq.keepsTo_poll (b.handles i)

variable [DecidableEq ι]

/-- Polls one of the jobs at a time. -/
def poll (call : ι × Instant) (b : Batch ι) : Outcome Poll × Batch ι :=
  let polled := b.run call.1 call.2
  (polled.1.1, ⟨Function.update b.handles call.1 polled.1.2, polled.2⟩)

/-- Polls jobs one after another.  The answers come in the order of the calls. -/
def pollAll : List (ι × Instant) → Batch ι → List (ι × Outcome Poll) × Batch ι
  | [], b => ([], b)
  | call :: calls, b =>
      let (answer, b) := b.poll call
      let (answers, b) := pollAll calls b
      ((call.1, answer) :: answers, b)

/-- The answers to the calls of one job. -/
def answersTo (i : ι) (answers : List (ι × Outcome Poll)) : List (Outcome Poll) :=
  (answers.filter (·.1 = i)).map (·.2)

theorem answersTo_cons_self (answer : Outcome Poll) (answers : List (ι × Outcome Poll)) :
    answersTo i ((i, answer) :: answers) = answer :: answersTo i answers := by
  simp [answersTo]

theorem answersTo_cons_of_ne (other : j ≠ i) (answer : Outcome Poll)
    (answers : List (ι × Outcome Poll)) :
    answersTo i ((j, answer) :: answers) = answersTo i answers := by
  simp [answersTo, other]

/-! ### One poll -/

theorem Ready.poll (ready : b.Ready routes) (call : ι × Instant) :
    (b.poll call).2.Ready routes := by
  obtain ⟨j, time⟩ := call
  refine ⟨?_, fun i => Dialogue.accepts_run _ time (ready.accepts i)⟩
  intro i
  show (Function.update b.handles j (b.run j time).1.2 i).routes = routes i
  by_cases same : i = j
  · subst same
    rw [Function.update_self, (b.sameJob_run i time).routes, ready.own]
  · rw [Function.update_of_ne same, ready.own]

/-- What a poll does to its own job depends on no other job, and not on the time. -/
theorem AgreeOn.poll (ready : b.Ready routes) (agree : b.AgreeOn routes i c)
    (time time' : Instant) :
    (b.poll (i, time)).1 = (c.poll (i, time')).1 ∧
      (b.poll (i, time)).2.AgreeOn routes i (c.poll (i, time')).2 := by
  have alike : (b.run i time).1 = (c.run i time').1 ∧
      (b.run i time).2.AgreeOn (routes i) (c.run i time').2 := by
    unfold run
    rw [← agree.handle]
    exact (ready.keepsTo i).run_congr time time' (ready.accepts i) agree.line
  refine ⟨?_, ?_, alike.2⟩
  · show (b.run i time).1.1 = (c.run i time').1.1
    rw [alike.1]
  show Function.update b.handles i (b.run i time).1.2 i
    = Function.update c.handles i (c.run i time').1.2 i
  rw [Function.update_self, Function.update_self, alike.1]

/-- A poll of one job leaves another one as it is. -/
theorem agreeOn_poll (ready : b.Ready routes) (time : Instant) (other : i ≠ j)
    (apart : ∀ route ∈ routes i, route ∉ routes j) :
    b.AgreeOn routes i (b.poll (j, time)).2 where
  handle := by
    show b.handles i = Function.update b.handles j (b.run j time).1.2 i
    rw [Function.update_of_ne other]
  line := (ready.keepsTo j).agreeOn_run time (ready.accepts j) apart

/-! ### Many polls -/

theorem pollAll_cons (call : ι × Instant) (calls : List (ι × Instant)) (b : Batch ι) :
    b.pollAll (call :: calls) =
      ((call.1, (b.poll call).1) :: ((b.poll call).2.pollAll calls).1,
        ((b.poll call).2.pollAll calls).2) := rfl

/-- What happens to a job in a batch is what happens to it when it is polled alone, as often. -/
theorem pollAll_alone (apart : ∀ i j, i ≠ j → ∀ route ∈ routes i, route ∉ routes j) (i : ι)
    (time : Instant) :
    ∀ (calls : List (ι × Instant)) {b c : Batch ι}, b.Ready routes → c.Ready routes →
      b.AgreeOn routes i c →
        let alone := c.pollAll (List.replicate ((calls.map (·.1)).count i) (i, time))
        answersTo i (b.pollAll calls).1 = answersTo i alone.1 ∧
          (b.pollAll calls).2.AgreeOn routes i alone.2
  | [], _, _, _, _, agree => ⟨rfl, agree⟩
  | (j, now) :: calls, b, c, ready, ready', agree => by
      by_cases own : j = i
      · subst own
        obtain ⟨answer, after⟩ := agree.poll ready now time
        obtain ⟨answers, ends⟩ := pollAll_alone apart j time calls
          (ready.poll (j, now)) (ready'.poll (j, time)) after
        rw [List.map_cons, List.count_cons_self, List.replicate_succ, pollAll_cons, pollAll_cons]
        refine ⟨?_, ends⟩
        rw [answersTo_cons_self, answersTo_cons_self, answer, answers]
      · have untouched := agreeOn_poll ready now (Ne.symm own) (apart i j (Ne.symm own))
        obtain ⟨answers, ends⟩ := pollAll_alone apart i time calls
          (ready.poll (j, now)) ready' (untouched.symm.trans agree)
        rw [List.map_cons, List.count_cons_of_ne own, pollAll_cons]
        refine ⟨?_, ends⟩
        rw [answersTo_cons_of_ne own, answers]

/-- What is no job's is left as it is. -/
theorem sentOn_pollAll {route : Route} (none : ∀ i, route ∉ routes i) :
    ∀ {calls : List (ι × Instant)} {b : Batch ι}, b.Ready routes →
      (b.pollAll calls).2.line.sentOn route = b.line.sentOn route
  | [], b, _ => rfl
  | (j, time) :: calls, b, ready => by
      have untouched := (ready.keepsTo j).agreeOn_run time (ready.accepts j)
        (List.forall_mem_singleton.2 (none j))
      have before : (b.poll (j, time)).2.line.sentOn route = b.line.sentOn route :=
        (untouched.sentOn route (List.mem_singleton_self route)).symm
      rw [pollAll_cons, ← before]
      exact sentOn_pollAll none (ready.poll (j, time))

/-- Jobs are independent: however the polls of several jobs are interleaved, each job's calls are
answered the same, its handle ends up the same, and the same requests are sent on every route.  The
jobs have no route in common, and no 401 is queued for their routes. -/
theorem polls_reordered {jobs : ι → Handle} {line : Line Session Script}
    {calls calls' : List (ι × Instant)}
    (apart : ∀ i j, i ≠ j → ∀ route ∈ (jobs i).routes, route ∉ (jobs j).routes)
    (accepts : ∀ i, line.Accepts (jobs i).routes)
    (reordered : (calls.map (·.1)).Perm (calls'.map (·.1))) :
    let first := pollAll calls ⟨jobs, line⟩
    let second := pollAll calls' ⟨jobs, line⟩
    (∀ i, answersTo i first.1 = answersTo i second.1) ∧
      first.2.handles = second.2.handles ∧
      ∀ route, first.2.line.sentOn route = second.2.line.sentOn route := by
  have ready : (⟨jobs, line⟩ : Batch ι).Ready fun i => (jobs i).routes := ⟨fun _ => rfl, accepts⟩
  -- Both orders are compared with the course of the job alone.
  have agree (i : ι) :
      answersTo i (pollAll calls ⟨jobs, line⟩).1 = answersTo i (pollAll calls' ⟨jobs, line⟩).1 ∧
        (pollAll calls ⟨jobs, line⟩).2.AgreeOn (fun i => (jobs i).routes) i
          (pollAll calls' ⟨jobs, line⟩).2 := by
    obtain ⟨answers, ends⟩ := pollAll_alone apart i ⟨0, 0, 0⟩ calls ready ready (.refl _)
    obtain ⟨answers', ends'⟩ := pollAll_alone apart i ⟨0, 0, 0⟩ calls' ready ready (.refl _)
    rw [reordered.count_eq] at answers ends
    exact ⟨answers.trans answers'.symm, ends.trans ends'.symm⟩
  refine ⟨fun i => (agree i).1, funext fun i => (agree i).2.handle, ?_⟩
  intro route
  by_cases owned : ∃ i, route ∈ (jobs i).routes
  · obtain ⟨i, here⟩ := owned
    exact (agree i).2.line.sentOn route here
  · have none : ∀ i, route ∉ (jobs i).routes := fun i here => owned ⟨i, here⟩
    rw [sentOn_pollAll none ready, sentOn_pollAll none ready]

/-- A pending job of a given identifier. -/
def pendingAs (job : String) : Handle where
  backend := Fermioniq.backendName
  job := job
  statusPath := Session.statusPath job
  config := Dict.empty
  kernels := ["bell"]
  initialDelay := .zero
  submittedAt := ⟨0, 0, 0⟩
  outcome := none

def twoJobs : Bool → Handle
  | false => pendingAs "a"
  | true => pendingAs "b"

/-- The first job is found running once and then done; the network fails on the second. -/
def twoJobsLine : Line Session Script where
  state := .fresh
  wire := (((Queues.empty.on (.get, "/api/jobs/a") (.ok (.obj [("status", .str "running")]))).on
      (.get, "/api/jobs/a") (.ok (.obj [("status", .str "finished"), ("status_code", .int 0)]))).on
      (.get, "/api/jobs/a/results") (.ok (.obj [("emulator_output", .arr [.obj [("output",
        .obj [("samples", .obj [("00", .int 7)])])]])]))).on
      (.get, "/api/jobs/b") (.error (.transport none "timed out"))
  sent := []

/-- Two polls of one job, with a poll of another one after the first or before both. -/
theorem polls_reordered_twoJobs :
    let between : List (Bool × Instant) :=
      [(false, ⟨0, 0, 0⟩), (true, ⟨0, 1, 0⟩), (false, ⟨0, 2, 0⟩)]
    let before : List (Bool × Instant) :=
      [(true, ⟨0, 0, 0⟩), (false, ⟨0, 5, 0⟩), (false, ⟨0, 9, 0⟩)]
    let first := pollAll between ⟨twoJobs, twoJobsLine⟩
    let second := pollAll before ⟨twoJobs, twoJobsLine⟩
    (∀ i j, i ≠ j → ∀ route ∈ (twoJobs i).routes, route ∉ (twoJobs j).routes) ∧
      (∀ i, twoJobsLine.Accepts (twoJobs i).routes) ∧
      (between.map (·.1)).Perm (before.map (·.1)) ∧
      (∀ i, answersTo i first.1 = answersTo i second.1) ∧
      first.2.handles = second.2.handles ∧
      ∀ route, first.2.line.sentOn route = second.2.line.sentOn route := by
  have apart : ∀ i j, i ≠ j → ∀ route ∈ (twoJobs i).routes, route ∉ (twoJobs j).routes := by
    decide +kernel
  have accepts : ∀ i, twoJobsLine.Accepts (twoJobs i).routes := by
    unfold Line.Accepts
    decide +kernel
  exact ⟨apart, accepts, by decide, polls_reordered apart accepts (by decide)⟩

end Batch
end QuantumJobs

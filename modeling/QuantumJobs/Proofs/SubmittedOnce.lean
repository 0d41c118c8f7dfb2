import QuantumJobs.Proofs.Exchanges
import QuantumJobs.Proofs.ResumedSession
import QuantumJobs.Proofs.Run

/-!
# SubmittedOnce — a job is submitted when it is asked for, and never again

Processes work at places of their own and share one network.  Each sets up backends, submits jobs
and follows jobs through handles, which may have come from anywhere: from a submission of its own,
from a file, or from another place.  A submission that has kernels and can be phrased is one POST,
also as the first half of an execution.  Setting up, resuming, polling and waiting send nothing but
GETs and logins, also where a token is renewed and a GET repeated.  So the submissions that the
network sees are those that were asked for, one for one.
-/

namespace QuantumJobs

variable {σ τ : Type}

/-- What a submission of the kernels is phrased as, if there are any and it can be phrased. -/
def Backend.submission? (b : Backend σ) (s : σ) (kernels : List Kernel) : Option Request :=
  if kernels.isEmpty then none
  else
    match b.payload s kernels with
    | .ok p => some (.post (b.baseUrl s) p.path p.headers p.body)
    | .error _ => none

namespace Traffic

/-! ## Acts -/

/-- What a process may do. -/
inductive Act
  | connect (backend : String) (env : Environment) (c : Config)
  | resume (h : Handle) (env : Environment) (overrides : Config)
  | submit (kernels : List Kernel)
  | poll (h : Handle)
  /-- A wait that is dropped after a number of checks, unless the job ends before. -/
  | wait (h : Handle) (rounds : Nat)
  | waitUntil (h : Handle) (patience : Span)
  /-- A submission and a wait for its job. -/
  | execute (kernels : List Kernel) (rounds : Nat)

namespace Act

/-- The kernels that an act is to submit. -/
def kernels? : Act → Option (List Kernel)
  | .submit kernels => some kernels
  | .execute kernels _ => some kernels
  | _ => none

/-- The submission that an act asks of a session. -/
def submission? (b : Backend σ) (s : σ) (act : Act) : Option Request :=
  act.kernels?.bind (b.submission? s)

/-- A session is given up for one that has been set up, and kept if that fails. -/
def setUp (net : Network τ) (now : Instant) (d : Dialogue σ (Outcome Unit)) (line : Line σ τ) :
    Line σ τ :=
  match d.run net now line with
  | (.ok (), after) => after
  | (.error _, after) => { after with state := line.state }

/-- Where an act leaves the line. -/
def follow (b : Backend σ) (registry : Registry σ) (net : Network τ) (now : Instant) :
    Act → Line σ τ → Line σ τ
  | .connect backend env c, line => setUp net now (b.connectTo registry env backend c) line
  | .resume h env overrides, line => setUp net now (b.resume registry env h overrides) line
  | .submit kernels, line => ((b.submit kernels).run net now line).2
  | .poll h, line => ((b.poll h).run net now line).2
  | .wait h rounds, line => (Wait.run b net now rounds h line).2.line
  | .waitUntil h patience, line => (Wait.runUntil b net now patience h line).2.line
  | .execute kernels rounds, line =>
      match (b.submit kernels).run net now line with
      | (.ok h, line) => (Wait.run b net now rounds h line).2.line
      | (.error _, line) => line

end Act

/-! ## Places -/

/-- The sessions by their places, the network, and the requests that it has been sent. -/
structure Places (σ τ : Type) where
  sessions : Nat → σ
  wire : τ
  sent : List Request

/-- At some time something is done at a place. -/
structure Event where
  place : Nat
  time : Instant
  act : Act

/-- The submission that was asked for, and the requests that were sent meanwhile. -/
structure Report where
  submission : Option Request
  sent : List Request

def Places.line (w : Places σ τ) (place : Nat) : Line σ τ := ⟨w.sessions place, w.wire, w.sent⟩

/-- Everything happens in some order. -/
def step (b : Backend σ) (registry : Registry σ) (net : Network τ) (w : Places σ τ) (e : Event) :
    Option (Places σ τ × Option Report) :=
  let after := e.act.follow b registry net e.time (w.line e.place)
  some (
    { sessions := fun place => if place = e.place then after.state else w.sessions place
      wire := after.wire
      sent := after.sent },
    some ⟨e.act.submission? b (w.sessions e.place), after.sent.drop w.sent.length⟩)

/-! ## What an act sends -/

section Sends

variable {b : Backend σ} {allowed : Request → Prop} (registry : Registry σ) (net : Network τ)
  (now : Instant) (line : Line σ τ)

theorem adds_setUp {d : Dialogue σ (Outcome Unit)} (only : d.Only allowed) :
    line.Adds allowed (Act.setUp net now d line) := by
  have adds := only.adds net now line
  unfold Act.setUp
  rcases ran : d.run net now line with ⟨_ | _, after⟩
  · rw [ran] at adds
    exact adds.trans (.none rfl)
  · rw [ran] at adds
    exact adds

/-- A submission sends the one request that it is phrased as, or nothing. -/
theorem sent_submit (b : Backend σ) (kernels : List Kernel) :
    ((b.submit kernels).run net now line).2.sent
      = line.sent ++ (b.submission? line.state kernels).toList := by
  unfold Backend.submit Backend.submission?
  by_cases empty : kernels.isEmpty = true
  · rw [if_pos empty, if_pos empty]
    exact (List.append_nil _).symm
  · rw [if_neg empty, if_neg empty]
    cases built : b.payload line.state kernels with
    | error fault => simp [built]
    | ok p =>
        cases answered : (net.answer (.post (b.baseUrl line.state) p.path p.headers p.body)
            line.wire).1 <;>
          simp [built, answered]

/-- Whatever is done, the submission that is asked for is sent once and first, and all else is what
the backend may ask. -/
theorem sent_follow (asks : b.Asks allowed) (act : Act) :
    ∃ new, (act.follow b registry net now line).sent
        = line.sent ++ ((act.submission? b line.state).toList ++ new) ∧ ∀ r ∈ new, allowed r := by
  cases act with
  | connect backend env c => exact adds_setUp net now line (asks.connectTo registry env backend c)
  | resume h env overrides =>
      exact adds_setUp net now line (asks.resume registry env h overrides)
  | poll h => exact (asks.poll h).adds net now line
  | wait h rounds => exact asks.adds_wait net now rounds h line
  | waitUntil h patience => exact asks.adds_waitUntil net now patience h line
  | submit kernels =>
      refine ⟨[], ?_, fun _ here => nomatch here⟩
      rw [List.append_nil]
      exact sent_submit net now line b kernels
  | execute kernels rounds =>
      have first := sent_submit net now line b kernels
      rcases submitted : (b.submit kernels).run net now line with ⟨_ | h, after⟩
      · rw [submitted] at first
        have last : (Act.execute kernels rounds).follow b registry net now line = after := by
          simp only [Act.follow, submitted]
        refine ⟨[], ?_, fun _ here => nomatch here⟩
        rw [last, List.append_nil]
        exact first
      · -- Once the job has been accepted, the wait for it only asks.
        rw [submitted] at first
        have last : (Act.execute kernels rounds).follow b registry net now line
            = (Wait.run b net now rounds h after).2.line := by
          simp only [Act.follow, submitted]
        obtain ⟨new, later, ok⟩ := asks.adds_wait net now rounds h after
        refine ⟨new, ?_, ok⟩
        rw [last, later, first, List.append_assoc]
        rfl

end Sends

/-! ## The emulator -/

/-- All that is posted is posted to the login. -/
def OnlyLogins (r : Request) : Prop := r.method = .post → r.path = Fermioniq.Settings.loginPath

/-- A submission, by its method and path. -/
def isJobPost (r : Request) : Bool := r.method = .post && r.path = Fermioniq.Session.jobsPath

theorem not_isJobPost {r : Request} (only : OnlyLogins r) : isJobPost r = false := by
  unfold isJobPost
  cases method : r.method with
  | get => simp
  | post =>
      have elsewhere : Fermioniq.Settings.loginPath ≠ Fermioniq.Session.jobsPath := by decide
      simp [only method, elsewhere]

theorem onlyLogins_refresh : Fermioniq.Session.refresh.Only OnlyLogins := by
  have login : Fermioniq.Session.login.Only OnlyLogins := by
    refine Dialogue.Only.state.bind ?_
    intro s
    cases s.settings with
    | none => exact .done _
    | some a =>
        refine (Dialogue.Only.request fun _ => rfl).bind ?_
        intro answer
        cases answer with
        | error fault => exact .done _
        | ok m => exact Dialogue.Only.now.bind fun _ => .done _
  exact login.bind fun _ => .change fun _ => .done _

theorem asks_fermioniq : Fermioniq.backend.Asks OnlyLogins where
  gets _ _ _ := nofun
  refresh := onlyLogins_refresh
  connect env c := by
    show (Fermioniq.Session.connect env c).Only OnlyLogins
    unfold Fermioniq.Session.connect
    cases Fermioniq.Settings.ofConfig env c with
    | error fault => exact .done _
    | ok a => exact .change fun _ => onlyLogins_refresh

theorem isJobPost_submission {act : Act} {s : Fermioniq.Session} {r : Request}
    (asked : act.submission? Fermioniq.backend s = some r) : isJobPost r = true := by
  unfold Act.submission? at asked
  obtain ⟨kernels, _, phrased⟩ := Option.bind_eq_some_iff.1 asked
  unfold Backend.submission? at phrased
  split at phrased
  · cases phrased
  · split at phrased
    · rename_i p built
      cases phrased
      obtain ⟨_, _, _, _, rfl⟩ := Fermioniq.Session.of_payload built
      rfl
    · cases phrased

/-! ## Every run -/

open Fermioniq (backendName credentials onlyFermioniq slashedJob slashedUrl welcome)

variable {registry : Registry Fermioniq.Session} {net : Network τ}

/-- The submission that an entry of a past tells of. -/
def asked (entry : Event × Option Report) : Option Request := entry.2.bind (·.submission)

/-- A step adds to the requests what it reports.  That begins with the submission that was asked
for, if there is one, and all that is posted besides is a login. -/
theorem sent_of_step {w w' : Places Fermioniq.Session τ} {e : Event} {reply : Option Report}
    (moved : step Fermioniq.backend registry net w e = some (w', reply)) :
    ∃ r new, reply = some r ∧
      r.submission = e.act.submission? Fermioniq.backend (w.sessions e.place) ∧
      w'.sent = w.sent ++ r.sent ∧ r.sent = r.submission.toList ++ new ∧
      ∀ q ∈ new, OnlyLogins q := by
  obtain ⟨new, sent, only⟩ := sent_follow registry net e.time (w.line e.place) asks_fermioniq e.act
  have added : (e.act.follow Fermioniq.backend registry net e.time (w.line e.place)).sent.drop
      w.sent.length
        = (e.act.submission? Fermioniq.backend (w.sessions e.place)).toList ++ new := by
    rw [sent]
    exact List.drop_left
  cases moved
  refine ⟨_, new, rfl, rfl, ?_, added, only⟩
  simp only
  rw [added, sent]
  rfl

/-- The submissions among what is reported are the one that was asked for. -/
theorem filter_sent {submission : Option Request} {new : List Request}
    (phrased : ∀ r, submission = some r → isJobPost r = true) (only : ∀ q ∈ new, OnlyLogins q) :
    (submission.toList ++ new).filter isJobPost = submission.toList := by
  have others : new.filter isJobPost = [] := by
    rw [List.filter_eq_nil_iff]
    intro q here
    rw [not_isJobPost (only q here)]
    exact Bool.false_ne_true
  rw [List.filter_append, others, List.append_nil]
  cases submission with
  | none => rfl
  | some r => simp [phrased r rfl]

/-- Every submission that the network is sent was asked for, and the other way round, in the same
order. -/
theorem filter_sent_of_run {start w : Places Fermioniq.Session τ} (quiet : start.sent = [])
    {past : Past Event Report} (run : Run (Steps (step Fermioniq.backend registry net)) start past w) :
    w.sent.filter isJobPost = past.reverse.filterMap asked := by
  induction run with
  | start =>
      rw [quiet]
      rfl
  | @step past w w' e reply _ moved ih =>
      obtain ⟨r, new, rfl, built, sent, adds, only⟩ := sent_of_step moved
      have phrased : ∀ q, r.submission = some q → isJobPost q = true := by
        intro q submitted
        rw [built] at submitted
        exact isJobPost_submission submitted
      have latest : [(e, some r)].filterMap asked = r.submission.toList := by
        cases submitted : r.submission <;> simp [asked, submitted]
      rw [sent, adds, List.filter_append, ih, filter_sent phrased only, List.reverse_cons,
        List.filterMap_append, latest]

/-- What an act that submits nothing posts is a login. -/
theorem onlyLogins_of_run {start w : Places Fermioniq.Session τ} {past : Past Event Report}
    (run : Run (Steps (step Fermioniq.backend registry net)) start past w) :
    ∀ e r, (e, some r) ∈ past → e.act.kernels? = none → ∀ q ∈ r.sent, OnlyLogins q := by
  induction run with
  | start =>
      intro e r here
      cases here
  | step _ moved ih =>
      intro e r here submitsNothing
      rcases List.mem_cons.1 here with latest | earlier
      · cases latest
        obtain ⟨_, new, same, built, _, adds, only⟩ := sent_of_step moved
        cases same
        have nothing : r.submission = none := by
          rw [built, Act.submission?, submitsNothing]
          rfl
        rw [adds, nothing]
        exact only
      · exact ih e r earlier submitsNothing

/-- Take any number of processes that use the emulator, with any answers from the network and any
handles.  The submissions that the network has been sent are as many as there were acts that asked
for one: submissions and executions with at least one kernel for which the session could phrase a
request.  They are those requests, in their order.  An act that submits nothing, which is to set up,
to resume, to poll or to wait, posts to no path but that of the login. -/
theorem submitted_as_often_as_asked {sessions : Nat → Fermioniq.Session} {wire : τ}
    {past : Past Event Report} {w : Places Fermioniq.Session τ}
    (run : Run (Steps (step Fermioniq.backend registry net)) ⟨sessions, wire, []⟩ past w) :
    w.sent.countP isJobPost = past.countP (fun entry => (asked entry).isSome) ∧
      w.sent.filter isJobPost = past.reverse.filterMap asked ∧
      ∀ e r, (e, some r) ∈ past → e.act.kernels? = none →
        ∀ q ∈ r.sent, q.method = .post → q.path = Fermioniq.Settings.loginPath := by
  have submissions := filter_sent_of_run rfl run
  refine ⟨?_, submissions, onlyLogins_of_run run⟩
  calc w.sent.countP isJobPost
      = (past.reverse.filterMap asked).length := by
        rw [List.countP_eq_length_filter, submissions]
    _ = past.reverse.countP fun entry => (asked entry).isSome := List.length_filterMap_eq_countP
    _ = past.countP fun entry => (asked entry).isSome := List.countP_reverse

/-- A job is submitted at one place, polled there with a token that has run out, and resumed, polled
and waited for at another.  A second job is executed, and two submissions are refused: one without
kernels, and one at a place where nobody is logged in. -/
def relay : List Event :=
  let bell : List Kernel := [⟨"bell", "Q"⟩]
  [.connect backendName .empty slashedUrl, .submit bell, .poll slashedJob, .submit []].map
      (⟨0, ⟨0, 0, 0⟩, ·⟩)
    ++ [.resume slashedJob .empty (credentials slashedUrl), .poll slashedJob, .wait slashedJob 1,
      .execute bell 1].map (⟨1, ⟨0, 0, 0⟩, ·⟩)
    ++ [⟨2, ⟨0, 0, 0⟩, .submit bell⟩]

/-- Nothing has been sent, and nobody is logged in. -/
def quiet : Places Fermioniq.Session Nat := ⟨fun _ => .fresh, 0, []⟩

/-- The answers to those requests; all that are not listed answer logins and submissions. -/
def relayAnswers : Nat → Outcome Json
  | 2 => .error (.transport (some 401) "token expired")
  | 4 | 6 | 7 | 9 => .ok SharedFile.running
  | _ => .ok (welcome "jwt-1")

/-- Ten requests are sent, two of them submissions. -/
theorem submitted_twice_in_relay :
    ∃ past w, Run (Steps (step Fermioniq.backend onlyFermioniq (.inOrder relayAnswers))) quiet
        past w ∧
      past.map (fun entry => (entry.1.act.kernels?.isSome, (asked entry).isSome))
        = [(true, false), (true, true), (false, false), (false, false), (false, false),
          (true, false), (false, false), (true, true), (false, false)] ∧
      w.sent.length = 10 ∧ w.sent.countP isJobPost = 2 := by
  obtain ⟨past, w, played, acts, sent⟩ : ∃ past w,
      replay (step Fermioniq.backend onlyFermioniq (.inOrder relayAnswers)) relay [] quiet
        = some (past, w) ∧
      past.map (fun entry => (entry.1.act.kernels?.isSome, (asked entry).isSome))
        = [(true, false), (true, true), (false, false), (false, false), (false, false),
          (true, false), (false, false), (true, true), (false, false)] ∧
      w.sent.length = 10 := ⟨_, _, rfl, rfl, rfl⟩
  have run := Run.of_replay relay .start played
  have counted := (submitted_as_often_as_asked run).1
  have asks : past.countP (fun entry => (asked entry).isSome) = 2 := by
    have columns := congrArg (List.countP Prod.snd) acts
    rw [List.countP_map] at columns
    exact columns
  exact ⟨past, w, run, acts, sent, counted.trans asks⟩

end Traffic
end QuantumJobs

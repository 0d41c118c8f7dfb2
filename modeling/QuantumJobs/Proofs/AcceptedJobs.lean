import QuantumJobs.Proofs.CommandSteps
import QuantumJobs.Proofs.ResumedSession

/-!
# AcceptedJobs — what is left of a job that a backend has accepted

A submission cannot be taken back.  Once the backend has answered with the identifier of a job, the
command saves a handle and only then tells of the job.  If the handle could be saved, there is a
record of the job in that file however the command ends, and the identifier has been printed.  If the
file was to be named after the job, the message that it could not be saved names the job as well.
Nothing is left only if the place for the file was chosen by the user and cannot be written, or if
there is no directory for the program's own files.
-/

namespace QuantumJobs
namespace CommandLine

open Files (Path Tree)
open Fermioniq (Session onlyFermioniq welcome)
open SharedFile (Errand)

variable {σ τ α β : Type}

/-! ## Texts that mention a job -/

def Mentions (text job : String) : Prop := job.toList <:+: text.toList

theorem Mentions.append_left {text job : String} (mentions : Mentions text job) (more : String) :
    Mentions (text ++ more) job := by
  unfold Mentions
  rw [String.toList_append]
  exact mentions.trans (List.prefix_append _ _).isInfix

theorem Mentions.append_right {text job : String} (mentions : Mentions text job) (before : String) :
    Mentions (before ++ text) job := by
  unfold Mentions
  rw [String.toList_append]
  exact mentions.trans (List.suffix_append _ _).isInfix

theorem mentions_self (job : String) : Mentions job job := List.infix_refl _

/-- The file of a job is named after it. -/
theorem mentions_jobFile (jobs : Path) (job : String) : Mentions (jobFile jobs job) job := by
  have name : Mentions (job ++ ".json") job := (mentions_self job).append_left ".json"
  unfold jobFile Path.join
  split
  · exact name
  · split
    · exact name.append_right jobs
    · exact name.append_right (jobs ++ "/")

/-- The message of a trouble tells its contexts. -/
theorem mentions_within {context job : String} (mentions : Mentions context job) (t : Trouble) :
    Mentions (t.within context).message job := by
  unfold Trouble.within Trouble.message
  cases t.parts with
  | nil => exact mentions
  | cons part parts =>
      rw [String.intercalate_cons_cons, String.append_assoc]
      exact mentions.append_left _

/-! ## What is printed stays printed -/

namespace Action

/-- The action prints at the end of what has been printed. -/
def Appends (x : Action σ τ α) : Prop := ∀ w, w.printed.toList <+: (x.run w).2.printed.toList

theorem appends_pure (a : α) : (pure a : Action σ τ α).Appends := fun _ => List.prefix_refl _

theorem Appends.bind {x : Action σ τ α} {f : α → Action σ τ β} (first : x.Appends)
    (next : ∀ a, (f a).Appends) : (x >>= f).Appends := by
  intro w
  have before := first w
  rcases ran : x.run w with ⟨halt | a, w'⟩
  · rw [run_bind_error ran]
    rw [ran] at before
    exact before
  · rw [run_bind_ok ran]
    rw [ran] at before
    exact before.trans (next a w')

theorem appends_require (e : Except Trouble α) : (require e : Action σ τ α).Appends := by
  intro w
  cases e <;> exact List.prefix_refl _

theorem appends_say (text : String) : (say text : Action σ τ Unit).Appends := by
  intro w
  rw [run_say, String.append_assoc, String.toList_append]
  exact List.prefix_append _ _

theorem appends_sayAll : ∀ texts : List String, (sayAll texts : Action σ τ Unit).Appends
  | [] => appends_pure ()
  | text :: texts => (appends_say text).bind fun _ => appends_sayAll texts

/-- A text that has been mentioned stays mentioned. -/
theorem Appends.mentions {x : Action σ τ α} (appends : x.Appends) {w : World σ τ} {job : String}
    (mentioned : Mentions w.printed job) : Mentions (x.run w).2.printed job :=
  List.IsInfix.trans mentioned (appends w).isInfix

end Action

theorem appends_saveHandle (p : Path) (h : Handle) : (saveHandle p h : Action σ τ Unit).Appends := by
  refine Action.Appends.bind (fun _ => List.prefix_refl _) ?_
  intro t
  refine (Action.appends_require _).bind ?_
  intro t' w
  exact List.prefix_refl _

theorem appends_tellEnd (answer : Outcome SampleResult) :
    (tellEnd answer : Action σ τ Unit).Appends :=
  (Action.appends_require _).bind fun _ => Action.appends_sayAll _

theorem appends_await (site : Site σ τ) (timeout : Option Nat) (h : Handle) :
    (await site timeout h).Appends := by
  intro w
  cases timeout with
  | some seconds =>
      rw [run_await_some]
  | none =>
      rw [run_await_none]

theorem appends_goOn (site : Site σ τ) (p : Path) (h : Handle) (andWait : Bool) :
    (goOn site p h andWait).Appends := by
  cases andWait with
  | false => exact Action.appends_say _
  | true =>
      refine (Action.appends_say _).bind fun _ => (appends_await site none h).bind ?_
      rintro ⟨answer, g⟩
      refine (appends_saveHandle p g).bind ?_
      intro _
      cases answer with
      | none => exact Action.appends_pure ()
      | some answer => exact appends_tellEnd answer

/-! ## A record in a file -/

/-- The file at a path is the record of a handle of the job. -/
def Recorded (job : String) (p : Path) (t : Tree) : Prop :=
  ∃ g : Handle, t.read p = .ok (.text g.toText) ∧ g.job = job

theorem recorded_of_save {h : Handle} {p : Path} {t t' : Tree} (saved : h.save t p = .ok t') :
    Recorded h.job p t' :=
  ⟨h, Tree.read_save (Handle.written_of_save saved), rfl⟩

theorem recorded_saveHandle {job : String} {p : Path} {w : World σ τ}
    (recorded : Recorded job p w.files) {h : Handle} (same : h.job = job) :
    Recorded job p ((saveHandle p h).run w).2.files := by
  rw [run_saveHandle]
  cases saved : h.save w.files p with
  | error fault => exact recorded
  | ok t =>
      rw [← same]
      exact recorded_of_save saved

/-- Whatever is so before a job is waited for is so afterwards, unless another save of the job's handle
in the same file changes it. -/
theorem files_goOn {site : Site σ τ} {p : Path} {h : Handle} {w : World σ τ} {holds : Tree → Prop}
    (before : holds w.files)
    (saved : ∀ (g : Handle) (w' : World σ τ), g.job = h.job → holds w'.files →
      holds ((saveHandle p g).run w').2.files) (andWait : Bool) :
    holds ((goOn site p h andWait).run w).2.files := by
  cases andWait with
  | false => exact before
  | true =>
      unfold goOn
      rw [if_pos rfl, Action.run_bind_ok (Action.run_say _ w)]
      obtain ⟨w', kept, ⟨halt, stopped⟩ | ⟨answer, g, waited, asks⟩⟩ :=
        @run_await σ τ site none h { w with
          printed := w.printed ++ ("\n" ++ arrow ++ " Waiting for job to complete...") ++ "\n" }
      · rw [Action.run_bind_error stopped, kept]
        exact before
      · rw [Action.run_bind_ok waited]
        have quiet : ∀ u : Unit, (answer.forM tellEnd : Action σ τ Unit).Keeps := by
          intro _
          cases answer with
          | none => exact Action.keeps_pure ()
          | some answer => exact keeps_tellResults _ answer
        rw [Action.files_bind quiet]
        refine saved g w' (sameJob_of_asks asks).job ?_
        rw [kept]
        exact before

/-- What has been saved stays a record of the job, also if another wait and another save follow. -/
theorem recorded_goOn {site : Site σ τ} {p : Path} {h : Handle} {w : World σ τ}
    (recorded : Recorded h.job p w.files) (andWait : Bool) :
    Recorded h.job p ((goOn site p h andWait).run w).2.files :=
  files_goOn recorded (fun _ _ same here => recorded_saveHandle here same) andWait

/-! ## Submissions -/

/-- The inputs and the configuration are read, the backend is set up, and the submission is answered
with the identifier of a job. -/
def Accepts (site : Site σ τ) (backend : String) (inputs : List Path) (sources : Sources)
    (w : World σ τ) (job : String) : Prop :=
  ∃ kernels config line p response,
    inputs.mapM (loadKernel w.files) = .ok kernels ∧ loadConfig w.files sources = .ok config ∧
    (site.backend.connectTo site.registry site.environment backend config).run site.network
      site.time w.line = (.ok (), line) ∧
    kernels.isEmpty = false ∧ site.backend.payload line.state kernels = .ok p ∧
    (site.network.answer (.post (site.backend.baseUrl line.state) p.path p.headers p.body)
      line.wire).1 = .ok response ∧
    site.backend.jobOf line.state response = .ok job

/-- A submission that is answered with the identifier of a job gives a handle of that job. -/
theorem run_submit_of_answer {b : Backend σ} {net : Network τ} {now : Instant} {line : Line σ τ}
    {kernels : List Kernel} {p : Payload} {response : Json} {job : String}
    (some : kernels.isEmpty = false) (phrased : b.payload line.state kernels = .ok p)
    (answered : (net.answer (.post (b.baseUrl line.state) p.path p.headers p.body) line.wire).1
      = .ok response) (named : b.jobOf line.state response = .ok job) :
    ∃ h line', h.job = job ∧ (b.submit kernels).run net now line = (.ok h, line') := by
  have accepted : ∃ h, b.accept line.state kernels response now = .ok h ∧ h.job = job := by
    unfold Backend.accept
    rw [named]
    exact ⟨_, rfl, rfl⟩
  obtain ⟨h, accepted, job⟩ := accepted
  refine ⟨h, _, job, Prod.ext ?_ rfl⟩
  simp [Backend.submit, some, phrased, answered, accepted]

/-- The world in which a submission has been announced. -/
def announced (backend : String) (kernels : List Kernel) (w : World σ τ) : World σ τ :=
  { w with printed := w.printed
      ++ (arrow ++ " Submitting " ++ toString kernels.length ++ " circuit(s) to " ++ backend)
      ++ "\n" }

/-- What a submission asks of the backend: to be connected, and to accept the kernels. -/
def handIn (site : Site σ τ) (backend : String) (kernels : List Kernel) (config : Config) :
    Action σ τ Handle := do
  let connected ← Action.talk site
    (site.backend.connectTo site.registry site.environment backend config)
  Action.require (inContext ("Failed to connect to backend '" ++ backend ++ "'") connected)
  let accepted ← Action.talk site (site.backend.submit kernels)
  Action.require (inContext "Submission failed" accepted)

section

variable {site : Site σ τ} {backend : String} {inputs : List Path} {sources : Sources}
  {w : World σ τ} {kernels : List Kernel} {config : Config} {line line' : Line σ τ} {fault : Fault}
  {h : Handle}

/-- A submission that could read everything hands in the kernels, and then keeps the handle. -/
theorem run_submit_of_read (loaded : inputs.mapM (loadKernel w.files) = .ok kernels)
    (configured : loadConfig w.files sources = .ok config) (output : Option Path) (andWait : Bool) :
    (submit site backend inputs sources output andWait).run w
      = (handIn site backend kernels config >>= fun h => keep site output h >>= fun p =>
          goOn site p h andWait).run (announced backend kernels w) := by
  unfold submit handIn
  rw [Action.run_bind_ok (Action.run_files w), loaded,
    Action.run_bind_ok (Action.run_require_ok _ _), configured,
    Action.run_bind_ok (Action.run_require_ok _ _), Action.run_bind_ok (Action.run_say _ _)]
  simp only [bind_assoc]
  rfl

theorem run_handIn_of_unconnected
    (refused : (site.backend.connectTo site.registry site.environment backend config).run
      site.network site.time w.line = (.error fault, line)) :
    ∃ t, (handIn site backend kernels config).run w = (.error (.trouble t), { w with line }) := by
  have talked : (Action.talk site (site.backend.connectTo site.registry site.environment backend
      config)).run w = (.ok (.error fault), { w with line }) := by
    rw [Action.run_talk, refused]
  unfold handIn
  rw [Action.run_bind_ok talked]
  exact ⟨_, Action.run_bind_error (run_require_inContext_error _ fault _)⟩

/-- Once there is a connection, what becomes of the submission decides. -/
theorem run_handIn_of_connected
    (connected : (site.backend.connectTo site.registry site.environment backend config).run
      site.network site.time w.line = (.ok (), line)) :
    (handIn site backend kernels config).run w
      = (Action.require (inContext "Submission failed"
          ((site.backend.submit kernels).run site.network site.time line).1)).run
        { w with line := ((site.backend.submit kernels).run site.network site.time line).2 } := by
  have talked : (Action.talk site (site.backend.connectTo site.registry site.environment backend
      config)).run w = (.ok (.ok ()), { w with line }) := by
    rw [Action.run_talk, connected]
  unfold handIn
  rw [Action.run_bind_ok talked, Action.run_bind_ok (run_require_inContext_ok _ _ _),
    Action.run_bind_ok (Action.run_talk site _ _)]

/-- A submission that gives a handle goes on with that handle. -/
theorem run_submit_of_submitted (loaded : inputs.mapM (loadKernel w.files) = .ok kernels)
    (configured : loadConfig w.files sources = .ok config)
    (connected : (site.backend.connectTo site.registry site.environment backend config).run
      site.network site.time w.line = (.ok (), line))
    (submitted : (site.backend.submit kernels).run site.network site.time line = (.ok h, line'))
    (output : Option Path) (andWait : Bool) :
    (submit site backend inputs sources output andWait).run w
      = (keep site output h >>= fun p => goOn site p h andWait).run
          { announced backend kernels w with line := line' } := by
  have accepted : (handIn site backend kernels config).run (announced backend kernels w)
      = (.ok h, { announced backend kernels w with line := line' }) := by
    rw [run_handIn_of_connected (w := announced backend kernels w) connected, submitted]
    rfl
  rw [run_submit_of_read loaded configured, Action.run_bind_ok accepted]

end

/-- Where a submission stands when its job has been accepted. -/
theorem run_submit_of_accepts {site : Site σ τ} {backend : String} {inputs : List Path}
    {sources : Sources} {w : World σ τ} {job : String}
    (accepts : Accepts site backend inputs sources w job) (output : Option Path) (andWait : Bool) :
    ∃ h w', h.job = job ∧ w'.files = w.files ∧
      (submit site backend inputs sources output andWait).run w
        = (keep site output h >>= fun p => goOn site p h andWait).run w' := by
  obtain ⟨kernels, config, line, p, response, loaded, configured, connected, some, phrased, answered,
    named⟩ := accepts
  obtain ⟨h, line', job, submitted⟩ : ∃ h line', h.job = job ∧
      (site.backend.submit kernels).run site.network site.time line = (.ok h, line') :=
    run_submit_of_answer some phrased answered named
  exact ⟨h, { announced backend kernels w with line := line' }, job, rfl,
    run_submit_of_submitted loaded configured connected submitted output andWait⟩

/-! ## Ends of a submission -/

/-- Why no handle of an accepted job could be saved in a file that names it: there is no directory
for the program's own files, or the file that the user has chosen cannot be written. -/
inductive Unsaved (site : Site σ τ) (files : Tree) (job : String) : Option Path → Prop where
  | homeless : site.home = none → Unsaved site files job none
  | stateless {home : Path} {obstacle : Files.Obstacle} :
      site.home = some home → files.doesExist (stateIn home) = false →
        files.makeDirectories (stateIn home) = .error obstacle → Unsaved site files job none
  | refused {p : Path} {h : Handle} {fault : Fault} :
      h.job = job → h.save files p = .error fault → Unsaved site files job (some p)

theorem run_outputFile_none (site : Site σ τ) (job : String) (w : World σ τ) :
    (outputFile site none job).run w
      = match (jobsDirectory site).run w with
        | (.ok jobs, w') => (.ok (jobFile jobs job), w')
        | (.error halt, w') => (.error halt, w') := by
  show ((jobFile · job) <$> jobsDirectory site : Action σ τ Path).run w = _
  rw [map_eq_pure_bind, Action.run_bind]
  rcases (jobsDirectory site).run w with ⟨_ | _, _⟩
  · rfl
  · rfl

/-- The file for a handle is the one that was chosen, or one that is named after the job; without a
directory for the program's own files there may be none. -/
theorem run_outputFile (site : Site σ τ) (output : Option Path) (job : String) (w : World σ τ) :
    (∃ p, output = some p ∧ (outputFile site output job).run w = (.ok p, w)) ∨
    (∃ p w', output = none ∧ Mentions p job ∧
      (outputFile site output job).run w = (.ok p, w')) ∨
    (∃ halt w', (outputFile site output job).run w = (.error halt, w') ∧
      Unsaved site w.files job output) := by
  cases output with
  | some p => exact .inl ⟨p, rfl, rfl⟩
  | none =>
      rw [run_outputFile_none, run_jobsDirectory, run_stateDirectory]
      cases known : site.home with
      | none => exact .inr (.inr ⟨_, _, rfl, .homeless known⟩)
      | some home =>
          by_cases there : w.files.doesExist (stateIn home) = true
          · simp only [if_pos there]
            exact .inr (.inl ⟨_, _, trivial, mentions_jobFile _ job, rfl⟩)
          · simp only [if_neg there]
            cases made : w.files.makeDirectories (stateIn home) with
            | ok t => exact .inr (.inl ⟨_, _, trivial, mentions_jobFile _ job, rfl⟩)
            | error o => exact .inr (.inr ⟨_, _, rfl, .stateless known (by simpa using there) made⟩)

/-- A job whose handle has been saved is told, and nothing is sent. -/
theorem run_keep_of_save {site : Site σ τ} {output : Option Path} {h : Handle} {w w' : World σ τ}
    {p : Path} {t : Tree} (place : (outputFile site output h.job).run w = (.ok p, w'))
    (saved : h.save w'.files p = .ok t) :
    ∃ w'', (keep site output h).run w = (.ok p, w'') ∧ w''.files = t ∧ w''.line = w'.line ∧
      Mentions w''.printed h.job := by
  have stored : (saveHandle p h).run w' = (.ok (), { w' with files := t }) := by
    rw [run_saveHandle, saved]
  unfold keep
  rw [Action.run_bind_ok place, Action.run_bind_ok stored, Action.run_bind_ok (Action.run_say _ _),
    Action.run_bind_ok (Action.run_say _ _)]
  refine ⟨_, rfl, rfl, rfl, ?_⟩
  have job : Mentions ("✓ Job submitted: " ++ h.job) h.job := (mentions_self h.job).append_right _
  exact (((job.append_right _).append_left _).append_left _).append_left _

theorem run_keep_of_fault {site : Site σ τ} {output : Option Path} {h : Handle} {w w' : World σ τ}
    {p : Path} {fault : Fault} (place : (outputFile site output h.job).run w = (.ok p, w'))
    (refused : h.save w'.files p = .error fault) :
    (keep site output h).run w
      = (.error (.trouble ((Trouble.ofFault fault).within ("Failed to save job handle: " ++ p))),
        w') := by
  have failed : (saveHandle p h).run w'
      = (.error (.trouble ((Trouble.ofFault fault).within ("Failed to save job handle: " ++ p))),
        w') := by
    rw [run_saveHandle, refused]
  unfold keep
  rw [Action.run_bind_ok place, Action.run_bind_error failed]

/-- Once a job has been accepted, a handle of it is saved and the job is told; or else the trouble in
which the command ends names the job; or else there was no file to save it in. -/
theorem run_keep (site : Site σ τ) (output : Option Path) (h : Handle) (w : World σ τ) :
    (∃ p w', (keep site output h).run w = (.ok p, w') ∧ Recorded h.job p w'.files ∧
      Mentions w'.printed h.job) ∨
    (∃ t w', (keep site output h).run w = (.error (.trouble t), w') ∧ Mentions t.message h.job) ∨
    (∃ halt w', (keep site output h).run w = (.error halt, w') ∧
      Unsaved site w.files h.job output) := by
  rcases run_outputFile site output h.job w with ⟨p, chosen, place⟩ | ⟨p, w', _, named, place⟩ |
    ⟨halt, w', failed, unsaved⟩
  · cases saved : h.save w.files p with
    | ok t =>
        obtain ⟨w'', kept, files, _, told⟩ := run_keep_of_save place saved
        refine .inl ⟨p, w'', kept, ?_, told⟩
        rw [files]
        exact recorded_of_save saved
    | error fault =>
        -- The user has chosen the file, and its name need not tell the job.
        refine .inr (.inr ⟨_, _, run_keep_of_fault place saved, ?_⟩)
        rw [chosen]
        exact .refused rfl saved
  · cases saved : h.save w'.files p with
    | ok t =>
        obtain ⟨w'', kept, files, _, told⟩ := run_keep_of_save place saved
        refine .inl ⟨p, w'', kept, ?_, told⟩
        rw [files]
        exact recorded_of_save saved
    | error fault =>
        -- The file is named after the job, so what is told of the file tells the job.
        refine .inr (.inl ⟨_, _, run_keep_of_fault place saved, ?_⟩)
        exact mentions_within (named.append_right _) _
  · refine .inr (.inr ⟨halt, w', ?_, unsaved⟩)
    unfold keep
    rw [Action.run_bind_error failed]

/-- Take any submission by which a backend accepts a job, with any backend and any network, whatever
happens afterwards.  When the command has ended there is a file with a record of the job, and the
job has been printed; or else the message with which the command ends names the job; or else there
was no file to save the handle in. -/
theorem accepted_job_recorded_or_named {site : Site σ τ} {backend : String} {inputs : List Path}
    {sources : Sources} {w : World σ τ} {job : String}
    (accepts : Accepts site backend inputs sources w job) (output : Option Path) (andWait : Bool) :
    ((∃ p, Recorded job p ((submit site backend inputs sources output andWait).run w).2.files) ∧
      Mentions ((submit site backend inputs sources output andWait).run w).2.printed job) ∨
    (∃ t, ((submit site backend inputs sources output andWait).run w).1 = .error (.trouble t) ∧
      Mentions t.message job) ∨
    Unsaved site w.files job output := by
  obtain ⟨h, w', rfl, same, run⟩ := run_submit_of_accepts accepts output andWait
  rw [run]
  rcases run_keep site output h w' with ⟨p, w'', kept, recorded, told⟩ | ⟨t, w'', failed, named⟩ |
    ⟨halt, w'', failed, unsaved⟩
  · rw [Action.run_bind_ok kept]
    exact .inl ⟨⟨p, recorded_goOn recorded andWait⟩, (appends_goOn site p h andWait).mentions told⟩
  · rw [Action.run_bind_error failed]
    exact .inr (.inl ⟨t, rfl, named⟩)
  · rw [same] at unsaved
    exact .inr (.inr unsaved)

/-- A user with a home, on a network that gives every request the same answer. -/
def siteSaying (m : Json) : Site Session Unit where
  backend := Fermioniq.backend
  registry := onlyFermioniq
  network := SharedFile.saying m
  environment := .empty
  home := some "/home"
  time := ⟨0, 0, 0⟩
  patience := 1

/-- A circuit, and a file in whose place there is no directory. -/
def desk : World Session Unit where
  files := ⟨Dict.ofList [("/bell.qasm", .file (.text "Q")), ("/blocked", .file (.text "x"))], []⟩
  line := ⟨.fresh, (), []⟩
  printed := ""
  rested := .zero

def accessToken : Sources := ⟨none, ["access_token_id=i", "access_token_secret=s"]⟩

/-- An answer to a login, to a submission and to a status check. -/
def stillRunning : Json :=
  .obj [("id", .str "j-1"), ("jwt_token", .str "jwt-1"), ("user_id", .str "u"),
    ("status", .str "running")]

theorem accepts_stillRunning :
    Accepts (siteSaying stillRunning) Fermioniq.backendName ["bell.qasm"] accessToken desk "j-1" :=
  ⟨[⟨"bell", "Q"⟩], _, _, _, stillRunning, rfl, rfl, Prod.ext rfl rfl, rfl, rfl, rfl, rfl⟩

/-- The handle is saved in the directory of jobs before the wait, which is broken off. -/
theorem job_recorded_and_printed :
    Accepts (siteSaying stillRunning) Fermioniq.backendName ["bell.qasm"] accessToken desk "j-1" ∧
    (∃ p, Recorded "j-1" p ((submit (siteSaying stillRunning) Fermioniq.backendName ["bell.qasm"]
      accessToken none true).run desk).2.files) ∧
    Mentions ((submit (siteSaying stillRunning) Fermioniq.backendName ["bell.qasm"] accessToken none
      true).run desk).2.printed "j-1" := by
  refine ⟨accepts_stillRunning, ?_⟩
  have ended : ((submit (siteSaying stillRunning) Fermioniq.backendName ["bell.qasm"] accessToken
      none true).run desk).1 = .error .interrupted := by decide +kernel
  rcases accepted_job_recorded_or_named accepts_stillRunning none true with recorded |
    ⟨t, failed, _⟩ | unsaved
  · exact recorded
  · rw [ended] at failed
    cases failed
  · cases unsaved with
    | homeless never => cases never
    | stateless known _ made =>
        cases known
        cases made

/-! ## A job that is lost -/

/-- What is read from a tree is the contents of a file in it. -/
theorem mem_of_read {t : Tree} {p : Path} {contents : Blob} (read : t.read p = .ok contents) :
    ∃ l, (l, Files.Entry.file contents) ∈ t.entries.entries := by
  obtain ⟨dir, name, _, here⟩ := Tree.read_eq_ok.1 read
  rw [Tree.entry?_append] at here
  exact ⟨_, Entries.mem_of_find? here⟩

/-- The text of a handle is that of an object. -/
theorem head?_toText (h : Handle) : h.toText.toList.head? = some '\x7b' := by
  have opens : ∀ parts : List String,
      (Json.spread 0 "\x7b" "\x7d" parts).toList.head? = some '\x7b' := by
    intro parts
    unfold Json.spread
    split
    · rfl
    · simp
  exact opens _

/-- How a submission ends whose handle is to be saved below a file. -/
def blockedEnd : Except Halt Unit × World Session Unit :=
  (submit (siteSaying stillRunning) Fermioniq.backendName ["bell.qasm"] accessToken
    (some "blocked/job.json") false).run desk

theorem trouble_of_blockedEnd :
    blockedEnd.1 = .error (.trouble ⟨["Failed to save job handle: blocked/job.json",
      "I/O error: File exists (os error 17)", "File exists (os error 17)"]⟩) := by
  rfl

theorem printed_of_blockedEnd : blockedEnd.2.printed = "→ Submitting 1 circuit(s) to fermioniq\n" := by
  rfl

theorem files_of_blockedEnd : blockedEnd.2.files = desk.files := by
  rfl

/-- The backend has accepted the job, and in the end no file and no text names it. -/
theorem accepted_job_lost :
    Accepts (siteSaying stillRunning) Fermioniq.backendName ["bell.qasm"] accessToken desk "j-1" ∧
      (¬ ∃ p, Recorded "j-1" p blockedEnd.2.files) ∧ ¬ Mentions blockedEnd.2.printed "j-1" ∧
      ¬ ∃ t, blockedEnd.1 = .error (.trouble t) ∧ Mentions t.message "j-1" := by
  refine ⟨accepts_stillRunning, ?_, ?_, ?_⟩
  · rintro ⟨p, g, read, _⟩
    rw [files_of_blockedEnd] at read
    obtain ⟨l, here⟩ := mem_of_read read
    have opens := head?_toText g
    -- Neither file of the desk begins like a record.
    have files : desk.files.entries.entries
        = [("/bell.qasm", .file (.text "Q")), ("/blocked", .file (.text "x"))] := by rfl
    rw [files] at here
    simp only [List.mem_cons, List.not_mem_nil, or_false, Prod.mk.injEq, Files.Entry.file.injEq,
      Blob.text.injEq] at here
    rcases here with ⟨_, text⟩ | ⟨_, text⟩
    · rw [text] at opens
      exact absurd opens (by decide)
    · rw [text] at opens
      exact absurd opens (by decide)
  · rw [printed_of_blockedEnd]
    unfold Mentions
    decide
  · rintro ⟨t, failed, mentioned⟩
    rw [trouble_of_blockedEnd] at failed
    cases failed
    unfold Mentions at mentioned
    exact absurd mentioned (by decide +kernel)

end CommandLine
end QuantumJobs

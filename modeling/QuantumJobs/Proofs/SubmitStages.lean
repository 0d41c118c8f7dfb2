import QuantumJobs.Proofs.AcceptedShapes
import QuantumJobs.Proofs.CommandReports
import QuantumJobs.Proofs.JobSubmissions
import QuantumJobs.Proofs.SubmittedOnce

/-!
# SubmitStages — how far a submission gets, and what it leaves

The command that submits a job goes through stages: it reads the inputs and the configuration, looks
up the backend, connects to it and submits.  Whichever stage fails first ends the command, before
anything has been written and, unless it was the submission itself, before any job has been posted.
Once the job has been accepted, its handle is saved, and if the command waits for the job, saved
again in the same place with what the wait has found.
-/

namespace QuantumJobs
namespace CommandLine

open Files (Path Tree)
open Fermioniq (Session acceptedJob)
open SharedFile (doneJob)
open Traffic (isJobPost not_isJobPost asks_fermioniq)

variable {σ τ : Type}

/-! ## Stages -/

inductive Stage
  | inputs
  | configuration
  | backend
  | initialization
  | submission
  deriving DecidableEq, Repr

/-- A stage at which a submission fails. -/
inductive FailsAt (site : Site σ τ) (backend : String) (inputs : List Path) (sources : Sources)
    (w : World σ τ) : Stage → Prop where
  | inputs {p : Path} {t : Trouble} : p ∈ inputs → loadKernel w.files p = .error t →
      FailsAt site backend inputs sources w .inputs
  | configuration {t : Trouble} : loadConfig w.files sources = .error t →
      FailsAt site backend inputs sources w .configuration
  | backend : site.registry.get? backend = none → FailsAt site backend inputs sources w .backend
  | initialization {config : Config} {fault : Fault} {line : Line σ τ} :
      loadConfig w.files sources = .ok config →
      (site.backend.connectTo site.registry site.environment backend config).run site.network
        site.time w.line = (.error fault, line) →
      FailsAt site backend inputs sources w .initialization
  | submission {kernels : List Kernel} {config : Config} {line line' : Line σ τ} {fault : Fault} :
      inputs.mapM (loadKernel w.files) = .ok kernels → loadConfig w.files sources = .ok config →
      (site.backend.connectTo site.registry site.environment backend config).run site.network
        site.time w.line = (.ok (), line) →
      (site.backend.submit kernels).run site.network site.time line = (.error fault, line') →
      FailsAt site backend inputs sources w .submission

/-- How a command ends that has failed at a stage.  No file is other than before; nothing is posted
to the path of jobs unless the submission itself has failed; and nothing is sent at all if there was
no backend to be reached. -/
structure Aborts (stage : Stage) (w : World σ τ) (ran : Except Halt Unit × World σ τ) : Prop where
  fails : ∃ t, ran.1 = .error (.trouble t)
  files : ran.2.files = w.files
  noJob : stage ≠ .submission → w.line.Adds (fun r => isJobPost r = false) ran.2.line
  nothing : stage = .inputs ∨ stage = .configuration ∨ stage = .backend → ran.2.line = w.line

section

/-! ## How far a run gets -/

variable {site : Site σ τ} {backend : String} {inputs : List Path} {sources : Sources}
  {w : World σ τ} {kernels : List Kernel} {config : Config} {line line' : Line σ τ} {fault : Fault}

theorem run_submit_of_unconnected (loaded : inputs.mapM (loadKernel w.files) = .ok kernels)
    (configured : loadConfig w.files sources = .ok config)
    (refused : (site.backend.connectTo site.registry site.environment backend config).run
      site.network site.time w.line = (.error fault, line))
    (output : Option Path) (andWait : Bool) :
    ∃ t, (submit site backend inputs sources output andWait).run w
      = (.error (.trouble t), { announced backend kernels w with line }) := by
  obtain ⟨t, stopped⟩ := run_handIn_of_unconnected (w := announced backend kernels w) refused
  rw [run_submit_of_read loaded configured]
  exact ⟨t, Action.run_bind_error stopped⟩

theorem run_submit_of_refused (loaded : inputs.mapM (loadKernel w.files) = .ok kernels)
    (configured : loadConfig w.files sources = .ok config)
    (connected : (site.backend.connectTo site.registry site.environment backend config).run
      site.network site.time w.line = (.ok (), line))
    (refused : (site.backend.submit kernels).run site.network site.time line
      = (.error fault, line'))
    (output : Option Path) (andWait : Bool) :
    ∃ t, (submit site backend inputs sources output andWait).run w
      = (.error (.trouble t), { announced backend kernels w with line := line' }) := by
  have stopped : (handIn site backend kernels config).run (announced backend kernels w)
      = (.error (.trouble ((Trouble.ofFault fault).within "Submission failed")),
        { announced backend kernels w with line := line' }) := by
    rw [run_handIn_of_connected (w := announced backend kernels w) connected, refused]
    rfl
  rw [run_submit_of_read loaded configured]
  exact ⟨_, Action.run_bind_error stopped⟩

/-! ## Stages that fail -/

/-- What cannot be read ends the command at once. -/
theorem aborts_of_unread (unread : (∃ t, inputs.mapM (loadKernel w.files) = .error t) ∨
      ∃ t, loadConfig w.files sources = .error t) (stage : Stage) (output : Option Path)
    (andWait : Bool) :
    Aborts stage w ((submit site backend inputs sources output andWait).run w) := by
  have ended : ∃ t, (submit site backend inputs sources output andWait).run w
      = (.error (.trouble t), w) := by
    unfold submit
    rw [Action.run_bind_ok (Action.run_files w)]
    cases loaded : inputs.mapM (loadKernel w.files) with
    | error t => exact ⟨t, Action.run_bind_error (Action.run_require_error t w)⟩
    | ok kernels =>
        rw [loaded] at unread
        rcases unread with ⟨t, never⟩ | ⟨t, configured⟩
        · cases never
        · rw [Action.run_bind_ok (Action.run_require_ok kernels w), configured]
          exact ⟨t, Action.run_bind_error (Action.run_require_error t w)⟩
  obtain ⟨t, ran⟩ := ended
  rw [ran]
  exact ⟨⟨t, rfl⟩, rfl, fun _ => .none rfl, fun _ => rfl⟩

theorem run_connectTo_of_unknown (unknown : site.registry.get? backend = none) (config : Config)
    (line : Line σ τ) :
    (site.backend.connectTo site.registry site.environment backend config).run site.network
      site.time line = (.error (.unknownBackend backend), line) := by
  unfold Backend.connectTo Registry.create
  rw [unknown]
  rfl

/-- The submission gives a handle and leaves the line as given. -/
def Submits (site : Site σ τ) (backend : String) (inputs : List Path) (sources : Sources)
    (w : World σ τ) (h : Handle) (line' : Line σ τ) : Prop :=
  ∃ kernels config line,
    inputs.mapM (loadKernel w.files) = .ok kernels ∧ loadConfig w.files sources = .ok config ∧
    (site.backend.connectTo site.registry site.environment backend config).run site.network
      site.time w.line = (.ok (), line) ∧
    (site.backend.submit kernels).run site.network site.time line = (.ok h, line')

variable {h : Handle} {job : String}

/-- There is one such handle at most. -/
theorem Submits.unique {g : Handle} {line₁ line₂ : Line σ τ}
    (first : Submits site backend inputs sources w h line₁)
    (second : Submits site backend inputs sources w g line₂) : h = g ∧ line₁ = line₂ := by
  obtain ⟨kernels, config, line, loaded, configured, connected, submitted⟩ := first
  obtain ⟨_, _, _, loaded', configured', connected', submitted'⟩ := second
  cases loaded.symm.trans loaded'
  cases configured.symm.trans configured'
  cases connected.symm.trans connected'
  cases submitted.symm.trans submitted'
  exact ⟨rfl, rfl⟩

theorem accepts_of_submits (submits : Submits site backend inputs sources w h line') :
    Accepts site backend inputs sources w h.job := by
  obtain ⟨kernels, config, line, loaded, configured, connected, submitted⟩ := submits
  have some : kernels ≠ [] := by
    rintro rfl
    cases submitted
  obtain ⟨p, phrased⟩ : ∃ p, site.backend.payload line.state kernels = .ok p := by
    cases phrased : site.backend.payload line.state kernels with
    | ok p => exact ⟨p, rfl⟩
    | error fault => simp [Backend.submit, some, phrased] at submitted
  have answer := @Backend.run_submit_of_phrased _ _ _ site.network site.time _ _ _ some phrased
  rw [submitted] at answer
  obtain ⟨response, answered, accepted⟩ := of_bind_ok answer.symm
  obtain ⟨job, named, made⟩ := of_bind_ok accepted
  cases made
  exact ⟨kernels, config, line, p, response, loaded, configured, connected,
    List.isEmpty_eq_false_iff.2 some, phrased, answered, named⟩

/-- A submission fails at some stage, or its job is accepted. -/
theorem fails_or_accepts (site : Site σ τ) (backend : String) (inputs : List Path)
    (sources : Sources) (w : World σ τ) :
    (∃ stage, FailsAt site backend inputs sources w stage) ∨
      ∃ job, Accepts site backend inputs sources w job := by
  by_cases each : ∀ p ∈ inputs, ∃ k, loadKernel w.files p = .ok k
  · obtain ⟨kernels, loaded⟩ := exists_mapM each
    cases configured : loadConfig w.files sources with
    | error t => exact .inl ⟨_, .configuration configured⟩
    | ok config =>
        rcases connected : (site.backend.connectTo site.registry site.environment backend
          config).run site.network site.time w.line with ⟨fault | _, line⟩
        · exact .inl ⟨_, .initialization configured connected⟩
        · rcases submitted : (site.backend.submit kernels).run site.network site.time line with
            ⟨fault | h, line'⟩
          · exact .inl ⟨_, .submission loaded configured connected submitted⟩
          · exact .inr ⟨h.job, accepts_of_submits
              ⟨kernels, config, line, loaded, configured, connected, submitted⟩⟩
  · push Not at each
    obtain ⟨p, here, unread⟩ := each
    cases read : loadKernel w.files p with
    | error t => exact .inl ⟨_, .inputs here read⟩
    | ok k => exact absurd read (unread k)

theorem stem_of_loadKernel {t : Tree} {p : Path} {k : Kernel} (loaded : loadKernel t p = .ok k) :
    Path.stem? p = some k.name := by
  unfold loadKernel at loaded
  split at loaded
  · obtain ⟨code, _, loaded⟩ := of_bind_ok loaded
    split at loaded
    · rename_i name stem
      cases loaded
      exact stem
    · cases loaded
  · cases loaded

/-- The handle of an accepted job is pending and names the kernels after the files. -/
theorem of_submits (submits : Submits site backend inputs sources w h line') :
    h.outcome = none ∧ List.Forall₂ (fun p name => Path.stem? p = some name) inputs h.kernels := by
  obtain ⟨kernels, config, line, loaded, _, _, submitted⟩ := submits
  obtain ⟨response, accepted⟩ := Handle.accepted_of_submit submitted
  obtain ⟨pending, _, _, names⟩ := Handle.of_accept accepted
  refine ⟨pending, ?_⟩
  rw [names, List.forall₂_map_right_iff]
  exact (forall₂_of_mapM loaded).imp fun _ _ => stem_of_loadKernel

/-! ## What is saved -/

/-- What the file of an accepted job holds when the command ends, and how it ends. -/
structure Concludes (site : Site σ τ) (andWait : Bool) (h : Handle) (line : Line σ τ) (p : Path)
    (ran : Except Halt Unit × World σ τ) : Prop where
  submitted : andWait = false → ran.2.files.read p = .ok (.text h.toText) ∧ ran.1 = .ok ()
  waited : andWait = true →
    ran.2.files.read p = .ok (.text { h with outcome := storedByWait site h line }.toText) ∧
      (ran.1 = .ok () ↔ ∃ result, storedByWait site h line = some (.done result))

variable {p : Path} {t : Tree}

/-- Once a handle has been saved, a wait saves it again with its outcome before it tells the end. -/
theorem concludes_goOn (site : Site σ τ) (pending : h.outcome = none)
    (saved : h.save t p = .ok w.files) (andWait : Bool) :
    Concludes site andWait h w.line p ((goOn site p h andWait).run w) := by
  have written := Handle.written_of_save saved
  cases andWait with
  | false => exact ⟨fun _ => ⟨Tree.read_save written, rfl⟩, nofun⟩
  | true =>
      refine ⟨nofun, fun _ => ?_⟩
      unfold goOn
      rw [if_pos rfl, Action.run_bind_ok (Action.run_say _ w)]
      obtain ⟨w', kept, ⟨halt, broken, nothing⟩ | ⟨answer, waited, tallies⟩⟩ :=
        run_await_unlimited site pending { w with
          printed := w.printed ++ ("\n" ++ arrow ++ " Waiting for job to complete...") ++ "\n" }
      · -- The file is left as it was saved before the wait.
        have nothing : storedByWait site h w.line = none := nothing
        rw [Action.run_bind_error broken, nothing, kept, ← pending]
        refine ⟨Tree.read_save written, iff_of_false (error_ne_ok halt) ?_⟩
        simp [pending]
      · -- The second save cannot fail, and only then is the end told.
        have tallies : Wait.Tallies (some answer) (storedByWait site h w.line) := tallies
        obtain ⟨after, again⟩ := Tree.save_again written
          (.text { h with outcome := storedByWait site h w.line }.toText)
        have stored : (saveHandle p { h with outcome := storedByWait site h w.line }).run w'
            = (.ok (), { w' with files := after }) := by
          rw [run_saveHandle, kept]
          unfold Handle.save
          rw [again]
          rfl
        rw [Action.run_bind_ok waited, Action.run_bind_ok stored]
        have same : ((tellEnd answer).run { w' with files := after }).2.files = after :=
          keeps_tellResults _ answer _
        refine ⟨?_, success_tellEnd tallies _⟩
        show (((tellEnd answer).run { w' with files := after }).2.files).read p = _
        rw [same]
        exact Tree.read_save again

/-- Where the handle of a job goes depends on the files alone. -/
theorem outputFile_of_files {output : Option Path} {w₁ : World σ τ}
    (place : (outputFile site output job).run w = (.ok p, w₁)) (w' : World σ τ)
    (same : w'.files = w.files) :
    ∃ w₂, (outputFile site output job).run w' = (.ok p, w₂) ∧ w₂.files = w₁.files ∧
      w₂.line = w'.line := by
  cases output with
  | some chosen =>
      cases place
      exact ⟨w', rfl, same, rfl⟩
  | none =>
      rw [run_outputFile_none, run_jobsDirectory, run_stateDirectory] at place ⊢
      rw [same]
      cases known : site.home with
      | none =>
          rw [known] at place
          cases place
      | some home =>
          simp only [known] at place ⊢
          by_cases there : w.files.doesExist (stateIn home) = true
          · simp only [if_pos there] at place ⊢
            cases place
            exact ⟨w', rfl, same, rfl⟩
          · simp only [if_neg there] at place ⊢
            cases made : w.files.makeDirectories (stateIn home) with
            | ok t =>
                simp only [made] at place ⊢
                cases place
                exact ⟨_, rfl, rfl, rfl⟩
            | error o =>
                simp only [made] at place
                cases place

/-- A submission that gives a handle, which can be saved, ends as it should. -/
theorem concludes_of_submits {output : Option Path} {w₁ : World σ τ}
    (submits : Submits site backend inputs sources w h line')
    (place : (outputFile site output h.job).run w = (.ok p, w₁))
    (saved : h.save w₁.files p = .ok t) (andWait : Bool) :
    Concludes site andWait h line' p
      ((submit site backend inputs sources output andWait).run w) := by
  have pending := (of_submits submits).1
  obtain ⟨kernels, config, line, loaded, configured, connected, submitted⟩ := submits
  obtain ⟨w₂, placed, files, sameLine⟩ :=
    outputFile_of_files place { announced backend kernels w with line := line' } rfl
  rw [← files] at saved
  obtain ⟨w₃, kept, rfl, line₃, _⟩ := run_keep_of_save placed saved
  rw [run_submit_of_submitted loaded configured connected submitted, Action.run_bind_ok kept]
  have concludes := concludes_goOn site pending saved andWait
  rw [line₃, sameLine] at concludes
  exact concludes

end

/-! ## The command -/

/-- An answer to a login, to a submission, to a status check and to a request for results. -/
def acceptedAndDone : Json :=
  .obj [("id", .str "j-1"), ("jwt_token", .str "jwt-1"), ("user_id", .str "u"),
    ("emulator_output", .arr [.obj [("output", .obj [("samples", .obj [("00", .int 7)])])]]),
    ("status", .str "finished"), ("status_code", .int 0)]

/-- The handle of the job that is submitted at the desk. -/
def filedJob : Handle :=
  { acceptedJob with config := Dict.ofList [("base_url", Fermioniq.defaultBaseUrl)] }

theorem submits_filedJob : ∃ line,
    Submits (siteSaying acceptedAndDone) Fermioniq.backendName ["bell.qasm"] accessToken desk
      filedJob line ∧
    storedByWait (siteSaying acceptedAndDone) filedJob line = doneJob.outcome :=
  ⟨_, ⟨[⟨"bell", "Q"⟩], _, _, rfl, rfl, Prod.ext rfl rfl, Prod.ext rfl rfl⟩, rfl⟩

theorem placed_filedJob : ∃ w₁ t,
    (outputFile (siteSaying acceptedAndDone) none filedJob.job).run desk
      = (.ok (jobFile (jobsIn (stateIn "/home")) "j-1"), w₁) ∧
    filedJob.save w₁.files (jobFile (jobsIn (stateIn "/home")) "j-1") = .ok t :=
  ⟨_, _, rfl, rfl⟩

/-- How a submission at the desk ends that is waited for. -/
def filedEnd (inputs : List Path) : Except Halt Unit × World Session Unit :=
  (submit (siteSaying acceptedAndDone) Fermioniq.backendName inputs accessToken none true).run desk

end CommandLine
end QuantumJobs

import QuantumJobs.Proofs.HandlePlaces

/-!
# AddressedJobs — jobs called by their identifiers

A job that has been submitted without a chosen file is called by its identifier afterwards.  The
commands look for the handle in the file of the job, unless the identifier stands for itself: it is a
path at which something exists, or it ends in `.json`.  Otherwise the file that they open is the one
in which the submission has saved the handle.
-/

namespace QuantumJobs

namespace CommandLine

open Files (Location Path Tree)
open Fermioniq (Session)

variable {σ τ : Type}

/-! ## The file that an identifier stands for -/

/-- An identifier that does not stand for itself: nothing exists at it as a path, and it does not end
in `.json`. -/
structure Plain (t : Tree) (job : String) : Prop where
  absent : t.doesExist job = false
  bare : Path.extension? job ≠ some "json"

theorem jobFile_ne (jobs : Path) (job : String) : job ≠ jobFile jobs job := by
  intro same
  have longer : job.toList.length < (jobFile jobs job).toList.length := by
    unfold jobFile Path.join
    split
    · simp [String.toList_append]
    · split
      · simp [String.toList_append]
        omega
      · simp [String.toList_append]
        omega
  rw [← same] at longer
  exact lt_irrefl _ longer

/-- A plain identifier stands for the file of its job, and no other one does. -/
theorem handleFile_eq_jobFile_iff (t : Tree) (jobs : Path) (job : String) :
    handleFile t jobs job = jobFile jobs job ↔ Plain t job := by
  unfold handleFile
  constructor
  · intro stands
    split at stands
    · exact absurd stands (jobFile_ne jobs job)
    · rename_i other
      simp only [Bool.or_eq_true, decide_eq_true_eq, not_or] at other
      exact ⟨by simpa using other.1, other.2⟩
  · rintro ⟨absent, bare⟩
    rw [absent, Bool.false_or, if_neg (by simpa using bare)]

/-! ## After a submission -/

section

variable {site : Site σ τ} {w w₁ w₂ : World σ τ} {backend : String} {inputs : List Path}
  {sources : Sources} {output : Option Path} {h : Handle} {line : Line σ τ} {p : Path} {t : Tree}

theorem home_of_jobsDirectory {jobs : Path} (found : (jobsDirectory site).run w = (.ok jobs, w₁)) :
    ∃ home, site.home = some home ∧ jobs = jobsIn (stateIn home) := by
  rw [run_jobsDirectory] at found
  rcases state : (stateDirectory site).run w with ⟨halt | dir, w₂⟩
  · rw [state] at found
    cases found
  · obtain ⟨home, known, rfl⟩ := (stateDirectory_eq_ok.1 state).home
    rw [state] at found
    cases found
    exact ⟨home, known, rfl⟩

/-- Once the directory for the program's own files has been found, it is found again. -/
theorem stateDirectory_again {dir : Path} (found : (stateDirectory site).run w = (.ok dir, w₁))
    {w' : World σ τ} (keeps : Tree.Keeps w₁.files w'.files) :
    ∃ w₂, (stateDirectory site).run w' = (.ok dir, w₂) := by
  cases stateDirectory_eq_ok.1 found with
  | there known there => exact ⟨w', stateDirectory_eq_ok.2 (.there known (keeps.doesExist there))⟩
  | @made home _ known _ made =>
      cases there : w'.files.doesExist (stateIn home) with
      | true => exact ⟨w', stateDirectory_eq_ok.2 (.there known there)⟩
      | false =>
          obtain ⟨after, again⟩ := Tree.makeAll_again made keeps.toSpans
          exact ⟨_, stateDirectory_eq_ok.2 (.made known there again)⟩

/-- From when its place is known, a submission does nothing to the files but save the handle. -/
theorem filed_of_submits (submits : Submits site backend inputs sources w h line)
    (placed : (outputFile site output h.job).run w = (.ok p, w₁))
    (saved : h.save w₁.files p = .ok t) (andWait : Bool) :
    Tree.Filed p w₁.files ((submit site backend inputs sources output andWait).run w).2.files := by
  obtain ⟨kernels, config, line₀, loaded, configured, connected, submitted⟩ := submits
  obtain ⟨w₂, placed, files, _⟩ :=
    outputFile_of_files placed { announced backend kernels w with line := line } rfl
  rw [← files] at saved ⊢
  obtain ⟨w₃, kept, rfl, _⟩ := run_keep_of_save placed saved
  rw [run_submit_of_submitted loaded configured connected submitted, Action.run_bind_ok kept]
  exact filed_goOn (.saved .start (Handle.written_of_save saved)) h andWait

/-- Where the directory of jobs has been found, a plain identifier opens the file of its job. -/
theorem openHandle_iff_of_plain {home : Path} {job : String} {g : Handle}
    (found : (stateDirectory site).run w = (.ok (stateIn home), w₁)) (plain : Plain w₁.files job) :
    (openHandle site job).run w = (.ok (jobFile (jobsIn (stateIn home)) job, g), w₁) ↔
      Handle.load w₁.files (jobFile (jobsIn (stateIn home)) job) = .ok g := by
  constructor
  · exact load_of_openHandle site
  · intro loaded
    have stands := (handleFile_eq_jobFile_iff w₁.files (jobsIn (stateIn home)) job).2 plain
    rw [← stands] at loaded ⊢
    exact openHandle_of_load found loaded

/-- The handle of a job that has just been accepted is loaded from its record. -/
theorem ofBlob_of_submits (submits : Submits site backend inputs sources w h line)
    (valid : site.time.Valid) : Handle.ofBlob (.text h.toText) = .ok h.restored := by
  have pending := (of_submits submits).1
  obtain ⟨kernels, config, line₀, _, _, _, submitted⟩ := submits
  obtain ⟨response, accepted⟩ := Handle.accepted_of_submit submitted
  obtain ⟨_, submittedAt, _⟩ := Handle.of_accept accepted
  have fits : h.Fits := by
    refine ⟨submittedAt ▸ valid, ?_⟩
    rw [pending]
    exact nofun
  have keeps : h.kept? = none := by simp [Handle.kept?, Handle.failure?, pending]
  exact Handle.ofBlob_of_keepsNone fits keeps

end

/-! ## Every submission -/

/-- An identifier stands for the file in which a submission saves the handle by default exactly if it
is plain, whatever has happened to the files since.  And after any submission, with any backend and
any network, by which the handle of an accepted job was saved there, the directory of jobs is found,
and the plain identifier of the job opens that file: what it gives is what the file holds.  Unless
the submission has waited for the job, that is the handle that was accepted. -/
theorem plain_identifier_opens_job (site : Site σ τ) :
    (∀ job w p w₁, (outputFile site none job).run w = (.ok p, w₁) →
      ∀ w' jobs w₂, (jobsDirectory site).run w' = (.ok jobs, w₂) →
        (handleFile w₂.files jobs job = p ↔ Plain w₂.files job)) ∧
    ∀ backend inputs sources andWait w h line p w₁ t,
      Submits site backend inputs sources w h line →
      (outputFile site none h.job).run w = (.ok p, w₁) → h.save w₁.files p = .ok t →
        let after := ((submit site backend inputs sources none andWait).run w).2
        ∃ jobs w₂, (jobsDirectory site).run after = (.ok jobs, w₂) ∧
          (Plain w₂.files h.job →
            (∀ g, (openHandle site h.job).run after = (.ok (p, g), w₂) ↔
              Handle.load w₂.files p = .ok g) ∧
            (andWait = false → site.time.Valid →
              (openHandle site h.job).run after = (.ok (p, h.restored), w₂))) := by
  constructor
  · intro job w p w₁ placed w' jobs w₂ found
    obtain ⟨home, known, _, rfl⟩ := (of_outputFile_none placed).2 p rfl
    obtain ⟨home', known', rfl⟩ := home_of_jobsDirectory found
    cases known.symm.trans known'
    exact handleFile_eq_jobFile_iff w₂.files _ job
  · intro backend inputs sources andWait w h line p w₁ t submits placed saved after
    obtain ⟨home, known, found, rfl⟩ := (of_outputFile_none placed).2 p rfl
    have filed := filed_of_submits submits placed saved andWait
    obtain ⟨w₂, again⟩ := stateDirectory_again found filed.keeps
    have jobs : (jobsDirectory site).run after = (.ok (jobsIn (stateIn home)), w₂) := by
      rw [run_jobsDirectory, again]
    refine ⟨_, w₂, jobs, ?_⟩
    intro plain
    refine ⟨fun g => openHandle_iff_of_plain again plain, ?_⟩
    intro noWait valid
    rw [openHandle_iff_of_plain again plain]
    have read := ((concludes_of_submits submits placed saved andWait).submitted noWait).1
    rw [Handle.load_of_read ((grown_stateDirectory again).1.read read)]
    exact ofBlob_of_submits submits valid

/-- How a submission at the desk ends that is not waited for. -/
def sentEnd : Except Halt Unit × World Session Unit :=
  (submit (siteSaying acceptedAndDone) Fermioniq.backendName ["bell.qasm"] accessToken none
    false).run desk

/-- The job of a submission at the desk is opened by its identifier. -/
theorem filedJob_opened :
    ∃ w₂, (openHandle (siteSaying acceptedAndDone) "j-1").run sentEnd.2
      = (.ok (jobFile (jobsIn (stateIn "/home")) "j-1", filedJob.restored), w₂) := by
  obtain ⟨_, opens⟩ := plain_identifier_opens_job (siteSaying acceptedAndDone)
  obtain ⟨line, submits, _⟩ := submits_filedJob
  obtain ⟨w₁, t, placed, saved⟩ := placed_filedJob
  obtain ⟨jobs, w₂, found, opened⟩ := opens _ _ _ false desk filedJob line _ w₁ t submits placed saved
  have after : ((jobsDirectory (siteSaying acceptedAndDone)).run sentEnd.2).2 = w₂ := by
    unfold sentEnd
    rw [found]
  have plain : Plain w₂.files "j-1" := by
    rw [← after]
    exact ⟨by decide +kernel, by decide +kernel⟩
  have valid : (siteSaying acceptedAndDone).time.Valid := SharedFile.fits_acceptedJob.submittedAt
  unfold sentEnd
  exact ⟨w₂, (opened plain).2 rfl valid⟩

/-! ## An identifier that stands for itself -/

/-- An answer to a login and to a submission, whose identifier ends like the name of a file. -/
def namedLikeFile : Json :=
  .obj [("id", .str "fq-1.json"), ("jwt_token", .str "jwt-1"), ("user_id", .str "u")]

/-- How a submission at the desk ends whose job is called so. -/
def likeFileEnd : Except Halt Unit × World Session Unit :=
  (submit (siteSaying namedLikeFile) Fermioniq.backendName ["bell.qasm"] accessToken none
    false).run desk

/-- The handle is saved in the directory of jobs.  No file is called like the identifier, and yet
that is the file in which the handle is looked for. -/
theorem job_not_opened :
    Accepts (siteSaying namedLikeFile) Fermioniq.backendName ["bell.qasm"] accessToken desk
      "fq-1.json" ∧ likeFileEnd.1 = .ok () ∧
    (Tree.changes desk.files likeFileEnd.2.files).map (·.1)
      = ["/home/.qrest/jobs/fq-1.json.json"] ∧
    likeFileEnd.2.files.doesExist "fq-1.json" = false ∧
    ((jobsDirectory (siteSaying namedLikeFile)).run likeFileEnd.2).1 = .ok "/home/.qrest/jobs" ∧
    handleFile likeFileEnd.2.files "/home/.qrest/jobs" "fq-1.json" = "fq-1.json" ∧
    ((openHandle (siteSaying namedLikeFile) "fq-1.json").run likeFileEnd.2).1.isOk = false := by
  have accepts : Accepts (siteSaying namedLikeFile) Fermioniq.backendName ["bell.qasm"] accessToken
      desk "fq-1.json" :=
    ⟨[⟨"bell", "Q"⟩], _, _, _, namedLikeFile, rfl, rfl, Prod.ext rfl rfl, rfl, rfl, rfl, rfl⟩
  exact ⟨accepts, by decide +kernel, by decide +kernel, by decide +kernel, by decide +kernel,
    by decide +kernel, by decide +kernel⟩

end CommandLine
end QuantumJobs

import QuantumJobs.Proofs.FollowedPaths
import QuantumJobs.Proofs.SubmitStages

/-!
# HandlePlaces — where the handle of a submitted job is saved

Unless the user has chosen a file, the handle of a job is saved in a file that is named after the
job, below the directory of jobs.  A submission changes no other file.  But the name is a path: its
slashes are those of the identifier, and whoever chooses the identifier chooses where the path leads.
An identifier without slashes gives a file in the directory of jobs itself.  One that starts with a
slash gives a file below the root, and one that leads up may give a file anywhere.
-/

namespace QuantumJobs
namespace CommandLine

open Files (Location Path Tree)
open Fermioniq (Session)

variable {σ τ : Type}

/-! ## Places -/

/-- The location of the directory of jobs. -/
def jobsPlace (current : Location) (home : Path) : Location :=
  Path.place current (jobsIn (stateIn home))

/-- Where the identifier of a job leads as a path, with the ending of its file. -/
def jobPlace (jobs : Location) (job : String) : Location :=
  Location.follow (if Path.isAbsolute job then [] else jobs) (Path.segments (job ++ ".json"))

theorem isAbsolute_append_json (job : String) :
    Path.isAbsolute (job ++ ".json") = Path.isAbsolute job := by
  unfold Path.isAbsolute
  rw [String.toList_append]
  cases job.toList with
  | nil => rfl
  | cons c rest => rfl

theorem join_ne_empty (dir : Path) {p : Path} (named : p ≠ "") : Path.join dir p ≠ "" := by
  unfold Path.join
  split
  · exact named
  · split
    · simp [String.append_eq_empty_iff, named]
    · simp [String.append_eq_empty_iff, named]

/-- The file of a job stands where its identifier leads from the directory of jobs. -/
theorem place_jobFile (current : Location) (home : Path) (job : String) :
    Path.place current (jobFile (jobsIn (stateIn home)) job)
      = jobPlace (jobsPlace current home) job := by
  unfold jobFile jobPlace
  rw [← isAbsolute_append_json]
  by_cases absolute : Path.isAbsolute (job ++ ".json") = true
  · rw [if_pos absolute]
    exact Path.place_join_of_isAbsolute current _ absolute
  · rw [if_neg absolute]
    exact Path.place_join current (join_ne_empty _ (by decide)) (by simpa using absolute)

/-- An identifier without slashes leads to a name in the directory of jobs. -/
theorem jobPlace_of_noSlash (jobs : Location) {job : String} (noSlash : '/' ∉ job.toList) :
    jobPlace jobs job = jobs ++ [job ++ ".json"] := by
  have ending : ∀ short : String, short.toList.length < 5 → job ++ ".json" ≠ short := by
    rintro _ short rfl
    simp [String.toList_append] at short
  have clean : '/' ∉ (job ++ ".json").toList := by
    rw [String.toList_append, List.mem_append, not_or]
    exact ⟨noSlash, by decide⟩
  unfold jobPlace
  rw [Path.not_isAbsolute_of_noSlash noSlash,
    Path.segments_of_noSlash clean (ending "" (by decide)) (ending "." (by decide))]
  rw [Location.follow_cons, if_neg (ending ".." (by decide))]
  rfl

/-! ## What a submission does to the files -/

section

variable {site : Site σ τ} {w w₁ : World σ τ} {p : Path} {t : Tree} {job : String}

/-- The directory for the program's own files is found: it is there, or it can be made. -/
inductive FindsState (site : Site σ τ) (w : World σ τ) : Path → World σ τ → Prop where
  | there {home : Path} : site.home = some home → w.files.doesExist (stateIn home) = true →
      FindsState site w (stateIn home) w
  | made {home : Path} {t : Tree} : site.home = some home →
      w.files.doesExist (stateIn home) = false → w.files.makeDirectories (stateIn home) = .ok t →
        FindsState site w (stateIn home) { w with files := t }

theorem stateDirectory_eq_ok {dir : Path} :
    (stateDirectory site).run w = (.ok dir, w₁) ↔ FindsState site w dir w₁ := by
  rw [run_stateDirectory]
  constructor
  · intro found
    split at found
    · cases found
    rename_i home known
    split at found
    · rename_i there
      cases found
      exact .there known there
    rename_i absent
    split at found
    · rename_i made
      cases found
      exact .made known (by simpa using absent) made
    · cases found
  · intro finds
    cases finds with
    | there known there => simp only [known, there, if_true]
    | made known absent made => simp only [known, absent, made, Bool.false_eq_true, if_false]

/-- The directory for the program's own files is below the user's home. -/
theorem FindsState.home {dir : Path} (finds : FindsState site w dir w₁) :
    ∃ home, site.home = some home ∧ dir = stateIn home := by
  cases finds with
  | there known _ => exact ⟨_, known, rfl⟩
  | made known _ _ => exact ⟨_, known, rfl⟩

/-- Directories at most are made to find the file for a handle, and it is the file of the job in the
directory of jobs. -/
theorem of_outputFile_none {r : Except Halt Path}
    (placed : (outputFile site none job).run w = (r, w₁)) :
    Tree.Grown w.files w₁.files ∧
      ∀ p, r = .ok p → ∃ home, site.home = some home ∧
        (stateDirectory site).run w = (.ok (stateIn home), w₁) ∧
        p = jobFile (jobsIn (stateIn home)) job := by
  rw [run_outputFile_none, run_jobsDirectory] at placed
  rcases found : (stateDirectory site).run w with ⟨halt | dir, w₂⟩
  · rw [found] at placed
    cases placed
    exact ⟨(grown_stateDirectory found).1, nofun⟩
  · obtain ⟨home, known, rfl⟩ := (stateDirectory_eq_ok.1 found).home
    rw [found] at placed
    cases placed
    refine ⟨(grown_stateDirectory found).1, ?_⟩
    rintro _ ⟨⟩
    exact ⟨home, known, rfl, rfl⟩

theorem filed_saveHandle (filed : Tree.Filed p t w.files) (h : Handle) :
    Tree.Filed p t ((saveHandle p h).run w).2.files := by
  rw [run_saveHandle]
  cases saved : h.save w.files p with
  | error fault => exact filed
  | ok t => exact filed.saved (Handle.written_of_save saved)

/-- A wait saves the handle where it has been saved before. -/
theorem filed_goOn (filed : Tree.Filed p t w.files) (h : Handle) (andWait : Bool) :
    Tree.Filed p t ((goOn site p h andWait).run w).2.files :=
  files_goOn filed (fun g _ _ here => filed_saveHandle here g) andWait

/-- Once a job has been accepted, its handle is saved in the file of the job and nowhere else. -/
theorem filed_keep_goOn (site : Site σ τ) (h : Handle) (andWait : Bool) (w : World σ τ) :
    let ran := (keep site none h >>= fun p => goOn site p h andWait).run w
    Tree.Grown w.files ran.2.files ∨
      ∃ home, site.home = some home ∧
        Tree.Filed (jobFile (jobsIn (stateIn home)) h.job) w.files ran.2.files := by
  intro ran
  rcases placed : (outputFile site none h.job).run w with ⟨halt | p, w₁⟩
  · have failed : (keep site none h).run w = (.error halt, w₁) := by
      unfold keep
      exact Action.run_bind_error placed
    refine .inl ?_
    show Tree.Grown w.files ((keep site none h >>= fun p => goOn site p h andWait).run w).2.files
    rw [Action.run_bind_error failed]
    exact (of_outputFile_none placed).1
  · obtain ⟨grown, file⟩ := of_outputFile_none placed
    obtain ⟨home, known, _, rfl⟩ := file p rfl
    have filed : Tree.Filed (jobFile (jobsIn (stateIn home)) h.job) w.files w₁.files :=
      Tree.Filed.start.made grown
    refine .inr ⟨home, known, ?_⟩
    show Tree.Filed _ _ ((keep site none h >>= fun p => goOn site p h andWait).run w).2.files
    cases saved : h.save w₁.files (jobFile (jobsIn (stateIn home)) h.job) with
    | error fault =>
        rw [Action.run_bind_error (run_keep_of_fault placed saved)]
        exact filed
    | ok t =>
        obtain ⟨w₂, kept, rfl, _⟩ := run_keep_of_save placed saved
        rw [Action.run_bind_ok kept]
        exact filed_goOn (filed.saved (Handle.written_of_save saved)) h andWait

/-- A submission that fails at a stage leaves every file as it was. -/
theorem files_of_fails {backend : String} {inputs : List Path} {sources : Sources} {stage : Stage}
    (fails : FailsAt site backend inputs sources w stage) (output : Option Path) (andWait : Bool) :
    ((submit site backend inputs sources output andWait).run w).2.files = w.files := by
  cases loaded : inputs.mapM (loadKernel w.files) with
  | error t => exact (aborts_of_unread (.inl ⟨t, loaded⟩) .inputs output andWait).files
  | ok kernels =>
      cases configured : loadConfig w.files sources with
      | error t => exact (aborts_of_unread (.inr ⟨t, configured⟩) .configuration output andWait).files
      | ok config =>
          cases fails with
          | @inputs p t here unread =>
              obtain ⟨k, read⟩ := (of_mapM loaded).2 p here
              cases unread.symm.trans read
          | configuration unread => cases configured.symm.trans unread
          | backend unknown =>
              obtain ⟨t, ran⟩ := run_submit_of_unconnected loaded configured
                (run_connectTo_of_unknown unknown config w.line) output andWait
              rw [ran]
              rfl
          | initialization configured' refused =>
              cases configured.symm.trans configured'
              obtain ⟨t, ran⟩ := run_submit_of_unconnected loaded configured refused output andWait
              rw [ran]
              rfl
          | submission loaded' configured' connected refused =>
              cases loaded.symm.trans loaded'
              cases configured.symm.trans configured'
              obtain ⟨t, ran⟩ :=
                run_submit_of_refused loaded configured connected refused output andWait
              rw [ran]
              rfl

/-- Without a chosen file, a submission makes directories at most, or its job is accepted and the
handle is saved in the file of the job. -/
theorem filed_submit (site : Site σ τ) (backend : String) (inputs : List Path) (sources : Sources)
    (andWait : Bool) (w : World σ τ) :
    let ran := (submit site backend inputs sources none andWait).run w
    Tree.Grown w.files ran.2.files ∨
      ∃ home job, site.home = some home ∧ Accepts site backend inputs sources w job ∧
        Tree.Filed (jobFile (jobsIn (stateIn home)) job) w.files ran.2.files := by
  intro ran
  rcases fails_or_accepts site backend inputs sources w with ⟨stage, fails⟩ | ⟨job, accepts⟩
  · have same : ran.2.files = w.files := files_of_fails fails none andWait
    rw [same]
    exact .inl (.refl _)
  · obtain ⟨h, w', rfl, same, run⟩ := run_submit_of_accepts accepts none andWait
    show Tree.Grown w.files ((submit site backend inputs sources none andWait).run w).2.files ∨ _
    rw [← same, run]
    rcases filed_keep_goOn site h andWait w' with grown | ⟨home, known, filed⟩
    · exact .inl grown
    · refine .inr ⟨home, h.job, known, accepts, ?_⟩
      show Tree.Filed _ _ ((submit site backend inputs sources none andWait).run w).2.files
      rw [run]
      exact filed

end

/-! ## Every submission -/

/-- A text of a location directly in a directory. -/
def DirectlyIn (dir : Location) (text : String) : Prop :=
  ∃ name, '/' ∉ name.toList ∧ text = Location.text (dir ++ [name])

theorem directlyIn_jobPlace (jobs : Location) {job : String} (noSlash : '/' ∉ job.toList) :
    DirectlyIn jobs (jobPlace jobs job).text := by
  refine ⟨job ++ ".json", ?_, by rw [jobPlace_of_noSlash jobs noSlash]⟩
  rw [String.toList_append, List.mem_append, not_or]
  exact ⟨noSlash, by decide⟩

/-- Take any submission for which the user has chosen no file, with any backend and any network.
Every file that it changes stands where the identifier of an accepted job leads from the directory
of jobs, with `.json` at its end; if the identifier has no slash, that is a file in the directory of
jobs itself.  And if the handle of an accepted job can be saved, its record is at that place in the
end. -/
theorem changed_files_named_after_job (site : Site σ τ) (backend : String) (inputs : List Path)
    (sources : Sources) (andWait : Bool) (w : World σ τ) :
    let ran := (submit site backend inputs sources none andWait).run w
    (∀ e ∈ Tree.changes w.files ran.2.files, ∃ home job, site.home = some home ∧
      Accepts site backend inputs sources w job ∧
      e.1 = (jobPlace (jobsPlace w.files.current home) job).text ∧
      ('/' ∉ job.toList → DirectlyIn (jobsPlace w.files.current home) e.1)) ∧
    ∀ h line p w₁ t, Submits site backend inputs sources w h line →
      (outputFile site none h.job).run w = (.ok p, w₁) → h.save w₁.files p = .ok t →
        ∃ home, ∃ g : Handle, site.home = some home ∧ g.job = h.job ∧
          ran.2.files.entry? (jobPlace (jobsPlace w.files.current home) h.job)
            = some (.file (.text g.toText)) := by
  intro ran
  have filed := filed_submit site backend inputs sources andWait w
  constructor
  · intro e changed
    rcases filed with grown | ⟨home, job, known, accepts, filed⟩
    · rw [Tree.changes_of_grown grown] at changed
      cases changed
    · have place := filed.onlyAt.of_mem_changes changed
      rw [place_jobFile] at place
      refine ⟨home, job, known, accepts, place, ?_⟩
      intro noSlash
      rw [place]
      exact directlyIn_jobPlace _ noSlash
  · intro h line p w₁ t submits placed saved
    have current : ran.2.files.current = w.files.current := by
      rcases filed with grown | ⟨_, _, _, _, filed⟩
      · exact grown.current
      · exact filed.onlyAt.current
    obtain ⟨g, read, same⟩ : Recorded h.job p ran.2.files := by
      have concludes := concludes_of_submits submits placed saved andWait
      cases andWait with
      | false => exact ⟨h, (concludes.submitted rfl).1, rfl⟩
      | true => exact ⟨_, (concludes.waited rfl).1, rfl⟩
    obtain ⟨home, known, _, rfl⟩ := (of_outputFile_none placed).2 p rfl
    obtain ⟨dir, name, names, here⟩ := Tree.read_eq_ok.1 read
    rw [Tree.place_of_locate names.located, current, place_jobFile] at here
    exact ⟨home, g, known, same, here⟩

/-- The handle of a job without slashes is in the directory of jobs. -/
theorem filedJob_in_jobs :
    ∃ g : Handle, g.job = "j-1" ∧
      (filedEnd ["bell.qasm"]).2.files.entry? ["home", ".qrest", "jobs", "j-1.json"]
        = some (.file (.text g.toText)) := by
  obtain ⟨_, saved⟩ := changed_files_named_after_job (siteSaying acceptedAndDone)
    Fermioniq.backendName ["bell.qasm"] accessToken true desk
  obtain ⟨line, submits, _⟩ := submits_filedJob
  obtain ⟨w₁, t, place, filed⟩ := placed_filedJob
  obtain ⟨home, g, known, same, here⟩ := saved filedJob line _ w₁ t submits place filed
  cases known
  have there : jobPlace (jobsPlace desk.files.current "/home") filedJob.job
      = ["home", ".qrest", "jobs", "j-1.json"] := by decide +kernel
  rw [there] at here
  unfold filedEnd
  exact ⟨g, same, here⟩

/-! ## A file elsewhere -/

/-- An answer to a login and to a submission, whose identifier leads up. -/
def leadingUp : Json :=
  .obj [("id", .str "../../evil"), ("jwt_token", .str "jwt-1"), ("user_id", .str "u")]

/-- How a submission at the desk ends whose job is called so. -/
def escapedEnd : Except Halt Unit × World Session Unit :=
  (submit (siteSaying leadingUp) Fermioniq.backendName ["bell.qasm"] accessToken none false).run desk

theorem not_directlyIn_jobs :
    ¬ DirectlyIn (jobsPlace desk.files.current "/home") "/home/evil.json" := by
  rintro ⟨name, _, same⟩
  have place : jobsPlace desk.files.current "/home" = ["home", ".qrest", "jobs"] := by
    decide +kernel
  rw [place] at same
  have chars := congrArg (fun text => text.toList.take 7) same
  simp [Location.text, String.join, String.toList_append] at chars

/-- The job is accepted and its handle is saved, in the one file that has changed.  That file is not
in the directory of jobs. -/
theorem handle_saved_elsewhere :
    Accepts (siteSaying leadingUp) Fermioniq.backendName ["bell.qasm"] accessToken desk
      "../../evil" ∧ escapedEnd.1 = .ok () ∧
    (Tree.changes desk.files escapedEnd.2.files).map (·.1) = ["/home/evil.json"] ∧
      ¬ DirectlyIn (jobsPlace desk.files.current "/home") "/home/evil.json" := by
  have accepts : Accepts (siteSaying leadingUp) Fermioniq.backendName ["bell.qasm"] accessToken desk
      "../../evil" :=
    ⟨[⟨"bell", "Q"⟩], _, _, _, leadingUp, rfl, rfl, Prod.ext rfl rfl, rfl, rfl, rfl, rfl⟩
  exact ⟨accepts, by decide +kernel, by decide +kernel, not_directlyIn_jobs⟩

end CommandLine
end QuantumJobs

import QuantumJobs.Proofs.AcceptedJobs
import QuantumJobs.Proofs.TreeChanges

/-!
# CommandReports — what a command leaves in the handle file and how it ends

The commands that check a job, report its result or wait for it open a handle file.  If the job has
ended they only tell how.  If not, they ask the backend, save what they have learned, and succeed or
fail by it.  The three save and fail in different orders, but what reaches the file is always the
handle that was opened with the outcome that was found, and how a command ends depends on that
outcome alone, and for a check also on whether something went wrong.
-/

namespace QuantumJobs
namespace CommandLine

open Files (Path Tree)
open Fermioniq (Session acceptedJob)
open SharedFile (Errand doneJob folder)

variable {σ τ : Type}

/-! ## What a command finds -/

/-- What a command knows of a job when it is done with the backend. -/
structure Findings where
  outcome : Option JobOutcome
  /-- Whether something went wrong. -/
  failed : Bool

/-- What an errand asks the backend about a handle without an outcome. -/
def ask (site : Site σ τ) (errand : Errand) (h : Handle) (line : Line σ τ) : Findings :=
  match errand with
  | .wait (some seconds) =>
      let (answer, w) :=
        Wait.runUntil site.backend site.network site.time (.ofSeconds seconds) h line
      ⟨w.handle.outcome, answer.any (!·.isOk)⟩
  | .wait none =>
      let (answer, w) := Wait.run site.backend site.network site.time site.patience h line
      ⟨w.handle.outcome, answer.any (!·.isOk)⟩
  | .status | .result =>
      let ((answer, g), _) := (site.backend.poll h).run site.network site.time line
      ⟨g.outcome, !answer.isOk⟩

/-- Which findings are a success: a check succeeds unless something went wrong and the job has not
ended, a report if the job has ended, and a wait if it is done. -/
def Succeeds : Errand → Findings → Prop
  | .status, f => ¬ (f.failed = true ∧ f.outcome = none)
  | .result, f => f.outcome.isSome = true
  | .wait _, f => ∃ result, f.outcome = some (.done result)

/-! ## What a command leaves -/

/-- How a command about a job that had not ended leaves the files and ends: either the files are as
they were or what was found has been saved, and that is sure if the job has ended. -/
structure Leaves (errand : Errand) (f : Findings) (files saved : Tree)
    (ran : Except Halt Unit × World σ τ) : Prop where
  files : ran.2.files = files ∨ ran.2.files = saved
  saves : f.outcome.isSome = true → ran.2.files = saved
  success : ran.1 = .ok () ↔ Succeeds errand f

variable {site : Site σ τ} {handle format : String} {sources : Sources} {w w₁ : World σ τ}
  {p : Path} {h g : Handle} {errand : Errand} {f : Findings} {t : Tree}

theorem error_ne_ok (halt : Halt) : (.error halt : Except Halt Unit) ≠ .ok () := by
  intro never
  cases never

/-- The outcome that a wait without a deadline stores in a handle, if it stores one. -/
def storedByWait (site : Site σ τ) (h : Handle) (line : Line σ τ) : Option JobOutcome :=
  (Wait.run site.backend site.network site.time site.patience h line).2.handle.outcome

/-- A wait without a deadline is broken off without an outcome, or has an answer and a handle with
the outcome that goes with it. -/
theorem run_await_unlimited (site : Site σ τ) (pending : h.outcome = none) (w : World σ τ) :
    ∃ w', w'.files = w.files ∧
      ((∃ halt, (await site none h).run w = (.error halt, w') ∧
          storedByWait site h w.line = none) ∨
        ∃ answer, (await site none h).run w
            = (.ok (some answer, { h with outcome := storedByWait site h w.line }), w') ∧
          Wait.Tallies (some answer) (storedByWait site h w.line)) := by
  rw [run_await_none]
  unfold storedByWait
  rcases waited : Wait.run site.backend site.network site.time site.patience h w.line
    with ⟨answer, wait⟩
  have tallies := Wait.tallies_of_run pending waited
  refine ⟨{ w with line := wait.line, rested := w.rested + wait.elapsed }, rfl, ?_⟩
  cases answer with
  | none =>
      generalize wait.handle.outcome = o at tallies ⊢
      cases tallies
      exact .inl ⟨.interrupted, rfl, rfl⟩
  | some answer =>
      have same : wait.handle = { h with outcome := wait.handle.outcome } :=
        Handle.sameJob_of_wait waited
      refine .inr ⟨answer, ?_, tallies⟩
      rw [← same]
      rfl

/-- Telling results succeeds exactly if there are any. -/
theorem success_tellResults (context : String) (answer : Outcome SampleResult) (w : World σ τ) :
    ((tellResults context answer : Action σ τ Unit).run w).1 = .ok () ↔ answer.isOk = true := by
  unfold tellResults
  cases answer with
  | ok result =>
      rw [Action.run_bind_ok (run_require_inContext_ok context result w)]
      obtain ⟨w', said, _⟩ := run_sayAll (resultLines result) w
      rw [said]
      exact iff_of_true rfl rfl
  | error fault =>
      rw [Action.run_bind_error (run_require_inContext_error context fault w)]
      exact iff_of_false (error_ne_ok _) Bool.false_ne_true

/-- What a wait tells in the end decides if the command succeeds. -/
theorem success_tellEnd {answer : Outcome SampleResult} {o : Option JobOutcome}
    (tallies : Wait.Tallies (some answer) o) (w : World σ τ) :
    ((tellEnd answer : Action σ τ Unit).run w).1 = .ok () ↔ ∃ result, o = some (.done result) := by
  refine (success_tellResults "Job did not complete" answer w).trans ?_
  cases tallies with
  | done result => exact iff_of_true rfl ⟨result, rfl⟩
  | failed fault => exact iff_of_false Bool.false_ne_true (by simp)
  | interrupted fault => exact iff_of_false Bool.false_ne_true (by simp)

/-- Finding or making the directory for the program's own files changes no file and sends nothing. -/
theorem grown_stateDirectory {r : Except Halt Path}
    (ran : (stateDirectory site).run w = (r, w₁)) :
    Tree.Grown w.files w₁.files ∧ w₁.line = w.line := by
  rw [run_stateDirectory] at ran
  split at ran
  · cases ran
    exact ⟨.refl _, rfl⟩
  · split at ran
    · cases ran
      exact ⟨.refl _, rfl⟩
    · split at ran
      · rename_i made
        cases ran
        exact ⟨Tree.grown_makeDirectories made, rfl⟩
      · cases ran
        exact ⟨.refl _, rfl⟩

theorem openHandle_of_load {dir : Path} (ready : (stateDirectory site).run w = (.ok dir, w₁))
    (loaded : Handle.load w₁.files (handleFile w₁.files (jobsIn dir) handle) = .ok h) :
    (openHandle site handle).run w
      = (.ok (handleFile w₁.files (jobsIn dir) handle, h), w₁) := by
  have found : (jobsDirectory site).run w = (.ok (jobsIn dir), w₁) := by
    rw [run_jobsDirectory, ready]
  unfold openHandle
  rw [Action.run_bind_ok found, Action.run_bind_ok (Action.run_files w₁)]
  simp only
  rw [loaded, Action.run_bind_ok (run_require_inContext_ok _ h w₁)]
  rfl

/-! ## Jobs that had ended -/

/-- How a command about a job that had ended leaves the world and ends. -/
structure Tells (errand : Errand) (o : JobOutcome) (w : World σ τ)
    (ran : Except Halt Unit × World σ τ) : Prop where
  files : ran.2.files = w.files
  line : ran.2.line = w.line
  success : ran.1 = .ok () ↔ Succeeds errand ⟨some o, false⟩

theorem Tells.unchanged {o : JobOutcome} {ran : Except Halt Unit × World σ τ} {before : Tree}
    (tells : Tells errand o w ran) (grown : Tree.Grown before w.files) :
    before.changes ran.2.files = [] ∧
      ∀ q contents, before.read q = .ok contents → ran.2.files.read q = .ok contents := by
  rw [tells.files]
  refine ⟨Tree.changes_of_grown grown, ?_⟩
  intro q contents read
  exact grown.read read

/-- The directories that were made are no files, so only a save changes one. -/
theorem Leaves.changed {ran : Except Halt Unit × World σ τ} {before files : Tree} {contents : Blob}
    (leaves : Leaves errand f files t ran) (grown : Tree.Grown before files)
    (written : files.save p contents = .ok t) :
    (∀ e ∈ before.changes ran.2.files, e.2 = contents) ∧
      (f.outcome.isSome = true → ran.2.files.read p = .ok contents) := by
  constructor
  · intro e changed
    rcases leaves.files with same | same
    · rw [same, Tree.changes_of_grown grown] at changed
      cases changed
    · rw [same] at changed
      exact Tree.changes_of_save grown written changed
  · intro ended
    rw [leaves.saves ended]
    exact Tree.read_save written

/-! ## The report -/

end CommandLine
end QuantumJobs

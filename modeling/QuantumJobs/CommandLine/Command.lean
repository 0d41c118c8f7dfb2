import QuantumJobs.CommandLine.Report
import QuantumJobs.CommandLine.Store
import QuantumJobs.CommandLine.Table
import QuantumJobs.Json.Printer

/-!
# Command — what the program can be asked to do

A job is submitted, checked, waited for and reported by separate runs of the program.  Between them
it lives in its handle file: a command opens the file, talks to the backend if the job has not
ended, and saves what it has learned.
-/

namespace QuantumJobs
namespace CommandLine

open Files (Path)

variable {σ τ : Type}

inductive Command
  | submit (backend : String) (inputs : List Path) (sources : Sources) (output : Option Path)
      (andWait : Bool)
  | status (handle : String) (sources : Sources)
  /-- Waits for the end of a job, at most for the given number of seconds. -/
  | wait (handle : String) (timeout : Option Nat) (sources : Sources)
  | result (handle : String) (format : String) (sources : Sources)
  | backends
  | version
  deriving DecidableEq, Repr, Inhabited

/-! ## Talking to the backend -/

/-- Resumes a handle's job with the user's configuration. -/
def reconnect (site : Site σ τ) (h : Handle) (sources : Sources) : Action σ τ Unit := do
  let overrides ← Action.require (loadConfig (← Action.files) sources)
  let answer ← Action.talk site (site.backend.resume site.registry site.environment h overrides)
  Action.require (inContext ("Failed to reconnect to backend '" ++ h.backend ++ "'") answer)

/-- Waits for the end of a job; no answer means that the deadline has passed. -/
def await (site : Site σ τ) (timeout : Option Nat) (h : Handle) :
    Action σ τ (Option (Outcome SampleResult) × Handle) := do
  let w ← get
  match timeout with
  | some seconds =>
      let (answer, wait) :=
        Wait.runUntil site.backend site.network site.time (.ofSeconds seconds) h w.line
      set { w with line := wait.line, rested := w.rested + wait.elapsed }
      return (answer, wait.handle)
  | none =>
      let (answer, wait) := Wait.run site.backend site.network site.time site.patience h w.line
      set { w with line := wait.line, rested := w.rested + wait.elapsed }
      if answer.isNone then Action.interrupt
      return (answer, wait.handle)

/-! ## The commands -/

def arrow : String := "→"

/-- Prints results, or ends in trouble. -/
def tellResults (context : String) (answer : Outcome SampleResult) : Action σ τ Unit := do
  Action.sayAll (resultLines (← Action.require (inContext context answer)))

/-- What a wait tells in the end. -/
def tellEnd (answer : Outcome SampleResult) : Action σ τ Unit :=
  tellResults "Job did not complete" answer

/-- The file in which the handle of an accepted job is saved. -/
def outputFile (site : Site σ τ) (output : Option Path) (job : String) : Action σ τ Path :=
  match output with
  | some p => pure p
  | none => (jobFile · job) <$> jobsDirectory site

/-- Waits for a job whose handle is saved at a path, or tells how to check it. -/
def goOn (site : Site σ τ) (p : Path) (h : Handle) (andWait : Bool) : Action σ τ Unit := do
  if andWait then
    Action.say ("\n" ++ arrow ++ " Waiting for job to complete...")
    let (answer, h) ← await site none h
    saveHandle p h
    answer.forM tellEnd
  else Action.say ("\n  Use '" ++ Release.name ++ " status " ++ p ++ "' to check progress.")

/-- Saves the handle of an accepted job and tells where it is. -/
def keep (site : Site σ τ) (output : Option Path) (h : Handle) : Action σ τ Path := do
  let p ← outputFile site output h.job
  saveHandle p h
  Action.say ("✓ Job submitted: " ++ h.job)
  Action.say ("  Handle: " ++ p)
  return p

/-- Submits all inputs as one job and saves its handle; nothing is sent unless every input and the
configuration can be read. -/
def submit (site : Site σ τ) (backend : String) (inputs : List Path) (sources : Sources)
    (output : Option Path) (andWait : Bool) : Action σ τ Unit := do
  let t ← Action.files
  let kernels ← Action.require (inputs.mapM (loadKernel t))
  let config ← Action.require (loadConfig t sources)
  Action.say (arrow ++ " Submitting " ++ toString kernels.length ++ " circuit(s) to " ++ backend)
  let connected ← Action.talk site
    (site.backend.connectTo site.registry site.environment backend config)
  Action.require (inContext ("Failed to connect to backend '" ++ backend ++ "'") connected)
  let accepted ← Action.talk site (site.backend.submit kernels)
  let h ← Action.require (inContext "Submission failed" accepted)
  let p ← keep site output h
  goOn site p h andWait

/-- What is known of a job. -/
def statusLines (handle : String) (h : Handle) : List String :=
  [arrow ++ " Job " ++ h.job, "",
    "  Backend:   " ++ h.backend,
    "  Status:    " ++ h.phase.title,
    "  Circuits:  " ++ ", ".intercalate h.kernels,
    "  Submitted: " ++ h.submittedAt.dateText ++ " " ++ h.submittedAt.clockText]
  ++ (match h.outcome with
    | some (.failed f) => ["", failureLine f]
    | some (.done _) =>
        ["\n  Use '" ++ Release.name ++ " result " ++ handle ++ "' to view results."]
    | none => [])

/-- Ends in trouble if a poll went wrong and has not ended the job. -/
def requireChecked (answer : Outcome Poll) (h : Handle) : Action σ τ Unit :=
  match answer with
  | .error fault =>
      if h.isResolved then pure ()
      else Action.require (inContext "Status check failed" (.error fault))
  | .ok _ => pure ()

/-- Tells when the next check is due. -/
def tellNext : Outcome Poll → Action σ τ Unit
  | .ok (.pending next) => Action.say ("  Next check suggested in " ++ next.toText)
  | _ => pure ()

/-- Ends in trouble if a poll has found the job unfinished. -/
def requireEnded (handle : String) (answer : Outcome Poll) (h : Handle) : Action σ τ Unit :=
  match answer with
  | .ok (.pending _) =>
      Action.fail ("Job " ++ h.job ++ " is still " ++ h.phase.title ++ ". Use '" ++ Release.name
        ++ " wait " ++ handle ++ "' to block until it completes.")
  | _ => pure ()

/-- Checks a job once, unless it has ended, and saves what was learned; a check that could not be
made changes no file. -/
def status (site : Site σ τ) (handle : String) (sources : Sources) : Action σ τ Unit := do
  let (p, h) ← openHandle site handle
  if h.isResolved then Action.sayAll (statusLines handle h)
  else
    reconnect site h sources
    let (answer, h) ← Action.talk site (site.backend.poll h)
    tellNext answer
    requireChecked answer h
    saveHandle p h
    Action.sayAll (statusLines handle h)

def limitText : Option Nat → String
  | some seconds => " (timeout: " ++ toString seconds ++ "s)"
  | none => ""

def timeoutText (handle : String) (timeout : Option Nat) (h : Handle) : String :=
  "Timeout after " ++ toString (timeout.getD 0) ++ "s. Job " ++ h.job ++ " is still "
    ++ h.phase.title ++ ". Use '" ++ Release.name ++ " status " ++ handle ++ "' to check later."

/-- Waits until a job has ended or the time is over. -/
def wait (site : Site σ τ) (handle : String) (timeout : Option Nat) (sources : Sources) :
    Action σ τ Unit := do
  let (p, h) ← openHandle site handle
  match h.outcome with
  | some o => tellResults "Job failed" o.answer
  | none =>
      reconnect site h sources
      Action.say (arrow ++ " Waiting for job " ++ h.job ++ limitText timeout)
      let (answer, h) ← await site timeout h
      saveHandle p h
      match answer with
      | some answer => tellEnd answer
      | none => Action.fail (timeoutText handle timeout h)

/-- How a job ended, with its results. -/
def resultReport (format : String) (h : Handle) : List String :=
  if format = "json" then [(report h).pretty]
  else
    [arrow ++ " Job " ++ h.job ++ " " ++ h.phase.title]
      ++ (h.failure?.map failureLine).toList
      ++ (h.result?.map resultLines).getD []

/-- Reports how a job ended; one that has not ended is checked once and saved. -/
def result (site : Site σ τ) (handle : String) (format : String) (sources : Sources) :
    Action σ τ Unit := do
  let (p, h) ← openHandle site handle
  if h.isResolved then Action.sayAll (resultReport format h)
  else
    reconnect site h sources
    let (answer, h) ← Action.talk site (site.backend.poll h)
    saveHandle p h
    requireEnded handle answer h
    requireChecked answer h
    Action.sayAll (resultReport format h)

def backendLines (registry : Registry σ) : List String :=
  [Release.name ++ " Available backends:", ""]
    ++ registry.available.map ("  ● " ++ ·)
    ++ ["\n  Configure a backend with --config <file.yaml> or --set KEY=VALUE."]

def versionLines : List String :=
  [Release.name ++ " v" ++ Release.version ++ " - Remote quantum job submission", "",
    "Components:",
    "  qrest-hal                Backend contract and job lifecycle",
    "  qrest-adapter-fermioniq  Fermioniq emulator backend",
    "  qrest-cli                Command-line interface", "",
    "License:    Apache-2.0"]

def Command.run (site : Site σ τ) : Command → Action σ τ Unit
  | .submit backend inputs sources output andWait =>
      CommandLine.submit site backend inputs sources output andWait
  | .status handle sources => CommandLine.status site handle sources
  | .wait handle timeout sources => CommandLine.wait site handle timeout sources
  | .result handle format sources => CommandLine.result site handle format sources
  | .backends => Action.sayAll (backendLines site.registry)
  | .version => Action.sayAll versionLines

/-! ## Paths -/

/-- The paths that a command may look at, given the directory of jobs. -/
def Command.paths (jobs : Path) : Command → List Path
  | .submit _ inputs sources output _ => inputs ++ sources.file.toList ++ output.toList ++ [jobs]
  | .status handle sources => [handle, jobFile jobs handle] ++ sources.file.toList
  | .wait handle _ sources => [handle, jobFile jobs handle] ++ sources.file.toList
  | .result handle _ sources => [handle, jobFile jobs handle] ++ sources.file.toList
  | .backends => []
  | .version => []

end CommandLine
end QuantumJobs

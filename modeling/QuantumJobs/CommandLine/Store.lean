import QuantumJobs.CommandLine.Settings
import QuantumJobs.CommandLine.World
import QuantumJobs.Handle.Storage
import QuantumJobs.Release

/-!
# Store — the files that commands use

Handles are kept in a directory of jobs below the user's home, one file for each job, unless a
command names another place.  Circuits and configurations are read from files that the user names.
-/

namespace QuantumJobs
namespace CommandLine

open Files (Path Tree)

variable {σ τ : Type}

/-! ## Handles -/

def stateIn (home : Path) : Path := Path.join home ("." ++ Release.name)

def jobsIn (state : Path) : Path := Path.join state "jobs"

/-- The directory for the program's own files; made if there is nothing in its place. -/
def stateDirectory (site : Site σ τ) : Action σ τ Path := do
  match site.home with
  | none => Action.fail "Could not determine home directory"
  | some home =>
      let dir := stateIn home
      let t ← Action.files
      if t.doesExist dir then return dir
      else
        Action.setFiles (← Action.require ((t.makeDirectories dir).mapError fun o =>
          (Trouble.ofObstacle o).within ("Failed to create state directory: " ++ dir)))
        return dir

def jobsDirectory (site : Site σ τ) : Action σ τ Path := do
  return jobsIn (← stateDirectory site)

/-- The file of a job in the directory of jobs. -/
def jobFile (jobs : Path) (job : String) : Path := Path.join jobs (job ++ ".json")

/-- The file that an argument stands for: what exists and what ends in `.json` stands for itself,
all else is the identifier of a job. -/
def handleFile (t : Tree) (jobs : Path) (handle : String) : Path :=
  if t.doesExist handle || Path.extension? handle = some "json" then handle
  else jobFile jobs handle

/-- The handle file that an argument stands for, and what it holds. -/
def openHandle (site : Site σ τ) (handle : String) : Action σ τ (Path × Handle) := do
  let jobs ← jobsDirectory site
  let t ← Action.files
  let p := handleFile t jobs handle
  let h ← Action.require (inContext ("Failed to load job handle: " ++ p) (Handle.load t p))
  return (p, h)

def saveHandle (p : Path) (h : Handle) : Action σ τ Unit := do
  let t ← Action.files
  Action.setFiles (← Action.require (inContext ("Failed to save job handle: " ++ p) (h.save t p)))

/-! ## Circuits -/

/-- Reads a circuit; the file's name without its extension names the kernel. -/
def loadKernel (t : Tree) (p : Path) : Except Trouble Kernel :=
  if t.doesExist p then do
    let code ← (t.readText p).mapError fun o =>
      (Trouble.ofObstacle o).within ("Failed to read file: " ++ p)
    match Path.stem? p with
    | some name => .ok ⟨name, code⟩
    | none => .error (.because ("Cannot derive a kernel name from " ++ p))
  else .error (.because ("File not found: " ++ p))

/-! ## Configurations -/

/-- Where a command takes its configuration from. -/
structure Sources where
  file : Option Path
  assignments : List String
  deriving DecidableEq, Repr, Inhabited

/-- The configuration that a file holds; empty without a file. -/
def loadFile (t : Tree) : Option Path → Except Trouble Config
  | none => .ok Dict.empty
  | some p => do
      let text ← (t.readText p).mapError fun o =>
        (Trouble.ofObstacle o).within ("Failed to read config file: " ++ p)
      (readYaml text).mapError (Trouble.within ("Failed to parse config file: " ++ p))

/-- The configuration of the file, changed by the assignments from left to right. -/
def loadConfig (t : Tree) (s : Sources) : Except Trouble Config := do
  s.assignments.foldlM assign (← loadFile t s.file)

end CommandLine
end QuantumJobs

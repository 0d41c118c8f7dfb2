import QuantumJobs.CommandLine.Trouble
import QuantumJobs.Client
import QuantumJobs.Files.Tree

/-!
# World — what commands act on

A command reads and changes files, talks to a backend and prints lines.  All of that is one value,
the world; an action takes it to another world, also when it ends in trouble.
-/

namespace QuantumJobs
namespace CommandLine

/-- Where commands run: what no command changes. -/
structure Site (σ τ : Type) where
  backend : Backend σ
  registry : Registry σ
  network : Network τ
  environment : Environment
  /-- The home directory of the user, if it is known. -/
  home : Option Files.Path
  time : Instant
  /-- How many status checks a wait without a deadline may take before it is broken off. -/
  patience : Nat

structure World (σ τ : Type) where
  files : Files.Tree
  line : Line σ τ
  printed : String
  /-- How long commands have rested between status checks. -/
  rested : Span
  deriving Inhabited

/-- Why an action ends early. -/
inductive Halt
  | trouble (t : Trouble)
  /-- The action was broken off from outside. -/
  | interrupted
  deriving DecidableEq, Repr

abbrev Action (σ τ α : Type) := ExceptT Halt (StateM (World σ τ)) α

namespace Action

variable {σ τ α : Type}

/-- Ends in trouble unless there is a value. -/
def require (e : Except Trouble α) : Action σ τ α :=
  match e with
  | .ok a => pure a
  | .error t => throw (.trouble t)

def fail (cause : String) : Action σ τ α := throw (.trouble (.because cause))

def interrupt : Action σ τ α := throw .interrupted

def files : Action σ τ Files.Tree := do return (← get).files

def setFiles (t : Files.Tree) : Action σ τ Unit := modify fun w => { w with files := t }

/-- Prints a line. -/
def say (text : String) : Action σ τ Unit :=
  modify fun w => { w with printed := w.printed ++ text ++ "\n" }

def sayAll : List String → Action σ τ Unit
  | [] => pure ()
  | text :: rest => do
      say text
      sayAll rest

/-- Runs a dialogue with the backend. -/
def talk (site : Site σ τ) (d : Dialogue σ α) : Action σ τ α := do
  let w ← get
  let (a, line) := d.run site.network site.time w.line
  set { w with line }
  return a

/-! ## What actions do to the world -/

@[simp]
theorem run_pure (a : α) (w : World σ τ) : (pure a : Action σ τ α).run w = (.ok a, w) := rfl

/-- An action goes on from the world that the one before it has left, unless that one has ended
early. -/
theorem run_bind {β : Type} (x : Action σ τ α) (f : α → Action σ τ β) (w : World σ τ) :
    (x >>= f).run w
      = match x.run w with
        | (.ok a, w) => (f a).run w
        | (.error halt, w) => (.error halt, w) := by
  show (ExceptT.bindCont f ((x.run w).1)) (x.run w).2 = _
  rcases x.run w with ⟨_ | _, _⟩ <;> rfl

@[simp]
theorem run_require_ok (a : α) (w : World σ τ) :
    (require (.ok a) : Action σ τ α).run w = (.ok a, w) := rfl

@[simp]
theorem run_require_error (t : Trouble) (w : World σ τ) :
    (require (.error t) : Action σ τ α).run w = (.error (.trouble t), w) := rfl

@[simp]
theorem run_files (w : World σ τ) : (files : Action σ τ Files.Tree).run w = (.ok w.files, w) := rfl

@[simp]
theorem run_setFiles (t : Files.Tree) (w : World σ τ) :
    (setFiles t : Action σ τ Unit).run w = (.ok (), { w with files := t }) := rfl

@[simp]
theorem run_say (text : String) (w : World σ τ) :
    (say text : Action σ τ Unit).run w
      = (.ok (), { w with printed := w.printed ++ text ++ "\n" }) := rfl

@[simp]
theorem run_talk (site : Site σ τ) (d : Dialogue σ α) (w : World σ τ) :
    (talk site d).run w
      = (.ok (d.run site.network site.time w.line).1,
          { w with line := (d.run site.network site.time w.line).2 }) := rfl

end Action
end CommandLine
end QuantumJobs

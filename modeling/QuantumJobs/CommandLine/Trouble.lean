import QuantumJobs.Fault

/-!
# Trouble — why a command fails

A command fails for a cause, which is reported inside the contexts in which it arose, the outermost
first.
-/

namespace QuantumJobs
namespace CommandLine

/-- The contexts of a failure and its cause, outermost first. -/
structure Trouble where
  parts : List String
  deriving DecidableEq, Repr, Inhabited

namespace Trouble

def message (t : Trouble) : String := ": ".intercalate t.parts

def because (cause : String) : Trouble := ⟨[cause]⟩

def within (context : String) (t : Trouble) : Trouble := ⟨context :: t.parts⟩

/-- A fault of the client; the cause that it wraps is told once more. -/
def ofFault (f : Fault) : Trouble := ⟨f.message :: f.cause?.toList⟩

def ofObstacle (o : Files.Obstacle) : Trouble := because o.message

end Trouble

/-- An outcome of the client in a context. -/
def inContext {α : Type} (context : String) (outcome : Outcome α) : Except Trouble α :=
  outcome.mapError fun f => (Trouble.ofFault f).within context

end CommandLine
end QuantumJobs

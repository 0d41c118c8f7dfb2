import QuantumJobs.Fault

/-!
# Problem — what can go wrong with the Fermioniq emulator

The adapter has causes of its own, each of which the client sees as one of its faults.
-/

namespace QuantumJobs
namespace Fermioniq

inductive Problem
  | invalidBondDim (raw : String)
  | notInitialized
  | notLoggedIn
  | jobFailed (code : Option Int) (message : String)
  | unexpected (reason : String) (response : Json)
  | json (cause : Json.Error)
  deriving Inhabited

namespace Problem

def message : Problem → String
  | .invalidBondDim raw => "bond_dim must be a positive integer, got '" ++ raw ++ "'"
  | .notInitialized => "Fermioniq helper is not initialized"
  | .notLoggedIn => "Not logged in to Fermioniq"
  | .jobFailed _ message => "Job failed: " ++ message
  | .unexpected reason _ => "Unexpected response: " ++ reason
  | .json cause => "JSON error: " ++ cause.message

/-- The fault that the client sees. -/
def toFault (p : Problem) : Fault :=
  match p with
  | .invalidBondDim _ => .invalidConfiguration "bond_dim" p.message
  | .notInitialized => .invalidState p.message
  | .notLoggedIn => .authentication p.message
  | .jobFailed code message => .jobFailed code message
  | .unexpected reason response => .malformedResponse reason response
  | .json cause => .serialization cause

end Problem
end Fermioniq
end QuantumJobs

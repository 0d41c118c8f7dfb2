import QuantumJobs.Files.Obstacle
import QuantumJobs.Json.Decode

/-!
# Fault — what can go wrong between a client and a backend

Every operation of the client fails with a `Fault`.  A fault holds its causes; its wording is
`Fault.message`.
-/

namespace QuantumJobs

inductive Fault
  /-- A required configuration key has no value; the hint says where else it could be given. -/
  | missingConfiguration (key hint : String)
  /-- A configuration value is present and unusable. -/
  | invalidConfiguration (key reason : String)
  /-- No backend is registered under the name. -/
  | unknownBackend (name : String)
  /-- A request was not answered, or answered with an HTTP status other than success. -/
  | transport (status : Option Nat) (message : String)
  /-- A backend broke its own response format; the message is kept. -/
  | malformedResponse (reason : String) (response : Json)
  /-- The backend reported that the job ended without success. -/
  | jobFailed (code : Option Int) (message : String)
  /-- A login or a token refresh failed. -/
  | authentication (message : String)
  /-- A handle or backend was used out of its order. -/
  | invalidState (message : String)
  /-- A text or value does not decode. -/
  | serialization (cause : Json.Error)
  /-- A handle file cannot be read or written. -/
  | files (cause : Files.Obstacle)
  deriving Inhabited

namespace Fault

def message : Fault → String
  | .missingConfiguration key hint => "Missing configuration: '" ++ key ++ "'" ++ hint
  | .invalidConfiguration key reason =>
      "Invalid configuration value for '" ++ key ++ "': " ++ reason
  | .unknownBackend name => "Unknown backend: '" ++ name ++ "'"
  | .transport status message =>
      let code := match status with
        | some s => " (HTTP " ++ toString s ++ ")"
        | none => ""
      "Transport error" ++ code ++ ": " ++ message
  | .malformedResponse reason _ => "Malformed response: " ++ reason
  | .jobFailed code message =>
      let status := match code with
        | some c => " (status code " ++ toString c ++ ")"
        | none => ""
      "Job execution failed" ++ status ++ ": " ++ message
  | .authentication message => "Authentication error: " ++ message
  | .invalidState message => "Invalid state: " ++ message
  | .serialization cause => "Serialization error: " ++ cause.message
  | .files cause => "I/O error: " ++ cause.message

/-- The message of a fault inside a fault, if the fault wraps one. -/
def cause? : Fault → Option String
  | .serialization cause => some cause.message
  | .files cause => some cause.message
  | _ => none

end Fault

/-- The answer of an operation that can go wrong. -/
abbrev Outcome (α : Type) := Except Fault α

end QuantumJobs

import QuantumJobs.Fault

/-!
# Failure — the lasting record of why a job failed

The fault that ends a job is stored with the job as a snapshot, from which an equivalent fault can
be rebuilt.
-/

namespace QuantumJobs

inductive FailureKind
  | jobExecution
  | malformedResponse
  | authentication
  | transport
  | other
  deriving DecidableEq, Repr, Inhabited

namespace FailureKind

/-- The name under which the kind is recorded. -/
def name : FailureKind → String
  | .jobExecution => "job_execution"
  | .malformedResponse => "malformed_response"
  | .authentication => "authentication"
  | .transport => "transport"
  | .other => "other"

/-- The name as it is shown. -/
def title : FailureKind → String
  | .jobExecution => "JobExecution"
  | .malformedResponse => "MalformedResponse"
  | .authentication => "Authentication"
  | .transport => "Transport"
  | .other => "Other"

def all : List FailureKind :=
  [.jobExecution, .malformedResponse, .authentication, .transport, .other]

def decode (place : Json.Place) : Json.Decoder FailureKind :=
  Json.enumeration (all.map fun k => (k.name, k)) place

end FailureKind

/-- A snapshot of a fault. -/
structure Failure where
  kind : FailureKind
  /-- The backend's status code, or the HTTP status. -/
  code : Option Int
  message : String
  /-- The malformed message. -/
  response : Option Json
  deriving BEq, Inhabited

namespace Failure

def ofFault : Fault → Failure
  | .jobFailed code message => ⟨.jobExecution, code, message, none⟩
  | .malformedResponse reason response => ⟨.malformedResponse, none, reason, some response⟩
  | .authentication message => ⟨.authentication, none, message, none⟩
  | .transport status message => ⟨.transport, status.map Int.ofNat, message, none⟩
  | fault => ⟨.other, none, fault.message, none⟩

/-- The code as an HTTP status, if it fits sixteen bits. -/
def httpStatus? (f : Failure) : Option Nat :=
  f.code.bind fun c => if 0 ≤ c ∧ c < 65536 then some c.toNat else none

/-- The fault that the snapshot stands for. -/
def toFault (f : Failure) : Fault :=
  match f.kind with
  | .jobExecution => .jobFailed f.code f.message
  | .malformedResponse => .malformedResponse f.message (f.response.getD .null)
  | .authentication => .authentication f.message
  | .transport => .transport f.httpStatus? f.message
  | .other => .invalidState f.message

/-! ## JSON -/

/-- The failure as a document; what it does not have is left out. -/
def document (f : Failure) : Json :=
  .obj ([("kind", .str f.kind.name)]
    ++ (f.code.map fun c => ("code", Json.int c)).toList
    ++ [("message", .str f.message)]
    ++ (f.response.map fun r => ("response", r)).toList)

def toJson (f : Failure) : Json := f.document.sorted

open Json (Decoder Place Shape)

def decode (place : Place) : Decoder Failure :=
  Json.record "JobFailure"
    (Failure.mk <$> Shape.required "kind" (FailureKind.decode place)
      <*> Shape.optional "code" Json.asSigned
      <*> Shape.required "message" Json.asText
      <*> Shape.optional "response" Json.asIs)
    place

end Failure
end QuantumJobs

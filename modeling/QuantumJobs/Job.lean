import QuantumJobs.Json.Decode

/-!
# Job — kernels and the phases of a job

A job carries one or more compiled kernels.  It is created, submitted and polled until it is done or
has failed; the last two phases are never left.
-/

namespace QuantumJobs

/-- A compiled circuit.  The code is passed on as it is. -/
structure Kernel where
  name : String
  code : String
  deriving DecidableEq, Repr, Inhabited

namespace Kernel

def toJson (k : Kernel) : Json := .obj [("code", .str k.code), ("name", .str k.name)]

def decode : Json.Decoder Kernel :=
  Json.record "KernelExecution"
    (Kernel.mk
      <$> Json.Shape.required "name" Json.asText
      <*> Json.Shape.required "code" Json.asText)
    .free

end Kernel

inductive Phase
  | created
  | submitted
  | polling
  | done
  | failed
  deriving DecidableEq, Repr, Inhabited

namespace Phase

/-- Whether the phase is never left. -/
def isTerminal : Phase → Bool
  | .done => true
  | .failed => true
  | _ => false

/-- The name under which the phase is recorded. -/
def name : Phase → String
  | .created => "created"
  | .submitted => "submitted"
  | .polling => "polling"
  | .done => "done"
  | .failed => "failed"

/-- The name as it is shown. -/
def title : Phase → String
  | .created => "Created"
  | .submitted => "Submitted"
  | .polling => "Polling"
  | .done => "Done"
  | .failed => "Failed"

def all : List Phase := [.created, .submitted, .polling, .done, .failed]

def decode : Json.Decoder Phase :=
  Json.enumeration (all.map fun p => (p.name, p)) .free

end Phase
end QuantumJobs

import QuantumJobs.Dialogue
import QuantumJobs.Network.Queues

/-!
# Script — a network with prepared answers

A request is answered from the queue of its method and path.  A request without a queue is answered
with status 404.
-/

namespace QuantumJobs

abbrev Script := Queues (Outcome Json)

namespace Script

/-- The form in which an answer that stays in its queue is given: of the faults only those of the
transport and of authentication keep their kind. -/
def restated : Outcome Json → Outcome Json
  | .ok m => .ok m
  | .error (.transport status message) => .error (.transport status message)
  | .error (.authentication message) => .error (.authentication message)
  | .error fault => .error (.transport none fault.message)

def unscripted (r : Request) : Fault :=
  .transport (some 404) ("no scripted response for " ++ r.method.title ++ " " ++ r.path)

def answer (r : Request) (s : Script) : Outcome Json × Script :=
  match s.take (r.method, r.path) with
  | (.nothing, s) => (.error (unscripted r), s)
  | (.removed a, s) => (a, s)
  | (.kept a, s) => (restated a, s)

def network : Network Script := ⟨answer⟩

end Script
end QuantumJobs

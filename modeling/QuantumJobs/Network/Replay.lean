import QuantumJobs.Network.Http

/-!
# Replay — a network whose answers come in later

A replay holds what the first requests were answered with and meets the first further one with an
unreachable server, which it notes.  When the answer to that request is known, the same dialogue is
run again from its start and comes one request further.
-/

namespace QuantumJobs

structure Replay where
  /-- What the requests to come are answered with, empty where no server was reached. -/
  known : List (Option Http.Response)
  /-- The first request beyond those. -/
  unanswered : Option (Url × Http.Received)

namespace Replay

def ofReplies (replies : List (Option Http.Response)) : Replay := ⟨replies, none⟩

def network : Network Replay :=
  Http.networkBy fun _ url r s =>
    match s.known with
    | reply :: rest => (reply, { s with known := rest })
    | [] => (none, { s with unanswered := s.unanswered.or (some (url, r)) })

end Replay
end QuantumJobs

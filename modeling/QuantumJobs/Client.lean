import QuantumJobs.Backend.Registry
import QuantumJobs.Polling

/-!
# Client — setting up backends by name

A client knows a registry of blueprints.  Connecting takes the blueprint under a name and a
configuration into use.  Resuming a job connects with the configuration that its handle keeps,
overlaid with values such as credentials that no handle keeps.
-/

namespace QuantumJobs

variable {σ : Type}

namespace Backend

/-- Replaces the session by a fresh one of the given name and takes a configuration into use. -/
def connectTo (b : Backend σ) (registry : Registry σ) (env : Environment) (name : String)
    (c : Config) : Dialogue σ (Outcome Unit) :=
  match registry.create name with
  | .error fault => .done (.error fault)
  | .ok blueprint => .change (fun _ => blueprint) fun _ => b.connect env c

/-- The configuration under which a handle's job is resumed. -/
def resumption (h : Handle) (overrides : Config) : Config := h.config.merge overrides

/-- Connects to the backend that owns a handle's job. -/
def resume (b : Backend σ) (registry : Registry σ) (env : Environment) (h : Handle)
    (overrides : Config) : Dialogue σ (Outcome Unit) :=
  b.connectTo registry env h.backend (resumption h overrides)

/-- The client over a registry, for diagnosis. -/
def clientText (registry : Registry σ) : String :=
  "JobDriver \x7b registry: " ++ registry.debugText ++ ", .. \x7d"

end Backend
end QuantumJobs

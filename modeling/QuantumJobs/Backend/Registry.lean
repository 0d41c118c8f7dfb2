import QuantumJobs.Fault
import QuantumJobs.Text.Quoted

/-!
# Registry — backends by name

A registry maps names to the blueprints from which backends are set up.  Registering a name again
replaces what it stood for.
-/

namespace QuantumJobs

abbrev Registry (β : Type) := Dict β

namespace Registry

variable {β : Type}

def register (r : Registry β) (name : String) (blueprint : β) : Registry β :=
  r.insert name blueprint

/-- Registers the blueprint that backends of a kind have by default. -/
def registerDefault {κ : Type} (default : κ → β) (r : Registry β) (name : String) (kind : κ) :
    Registry β :=
  r.register name (default kind)

def create (r : Registry β) (name : String) : Outcome β :=
  match r.get? name with
  | some blueprint => .ok blueprint
  | none => .error (.unknownBackend name)

/-- The registered names in ascending order. -/
def available (r : Registry β) : List String := r.keys

def debugText (r : Registry β) : String :=
  "BackendRegistry \x7b backends: [" ++ ", ".intercalate (r.available.map Text.quoted) ++ "] \x7d"

end Registry
end QuantumJobs

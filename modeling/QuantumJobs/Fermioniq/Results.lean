import QuantumJobs.Fermioniq.Status
import QuantumJobs.SampleResult

/-!
# Results — the emulator's output for a job

The output has one entry per circuit, in the order of submission.  An entry without a name is named
after its position.
-/

namespace QuantumJobs
namespace Fermioniq
namespace Results

open Json (Decoder Shape)

/-- The histogram of a circuit. -/
def decodeSamples : Decoder Counts :=
  Json.record "CircuitOutput" (Shape.required "samples" Counts.decode) .free

/-- An entry: the circuit's name, if it has one, and its histogram. -/
def decodeEntry : Decoder (Option String × Counts) :=
  Json.record "EmulatorOutput"
    (Prod.mk
      <$> Shape.optional "circuit_name" Json.asText
      <*> Shape.required "output" decodeSamples)
    .free

def decode : Decoder (List (Option String × Counts)) :=
  Json.record "ResultsResponse" (Shape.required "emulator_output" (Json.listOf decodeEntry)) .free

/-- The entries from position `i` on as executions.  The observations of an entry are added up
anew. -/
def executions : Nat → List (Option String × Counts) → List Execution
  | _, [] => []
  | i, (name, counts) :: rest =>
      ⟨name.getD ("circuit_" ++ toString i), Counts.ofPairs counts.entries⟩
        :: executions (i + 1) rest

def ofMessage (m : Json) : Outcome SampleResult := do
  let entries ← Status.reading decode "job results" m
  if entries.isEmpty then .error (Problem.unexpected "no emulator output" m).toFault
  else .ok ⟨executions 0 entries⟩

end Results
end Fermioniq
end QuantumJobs

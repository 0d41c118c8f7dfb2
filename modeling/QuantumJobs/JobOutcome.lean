import QuantumJobs.Failure
import QuantumJobs.Job
import QuantumJobs.SampleResult

/-!
# JobOutcome — how a job ended

A job ends with a result or with a failure.  An outcome is recorded as an object whose field `state`
says which of the two it is.
-/

namespace QuantumJobs

inductive JobOutcome
  | done (result : SampleResult)
  | failed (failure : Failure)
  deriving BEq, Inhabited

namespace JobOutcome

def phase : JobOutcome → Phase
  | .done _ => .done
  | .failed _ => .failed

/-- The result, or the fault that the failure stands for. -/
def answer : JobOutcome → Outcome SampleResult
  | .done result => .ok result
  | .failed failure => .error failure.toFault

/-! ## JSON -/

def document : JobOutcome → Json
  | .done result => .obj [("state", .str "done"), ("result", result.document)]
  | .failed failure => .obj [("state", .str "failed"), ("failure", failure.document)]

def toJson (o : JobOutcome) : Json := o.document.sorted

open Json (Decoder Decoding Mismatch)

/-- The field that says how the job ended. -/
def tagName : String := "state"

def variantNames : List String := ["done", "failed"]

/-- The phase that a tag names: `done` or `failed`. -/
def decodeTag : Decoder Phase
  | .str "done" => .ok .done
  | .str "failed" => .ok .failed
  | .str name => .error (.unknownVariant name variantNames)
  | v => .error (Json.mismatch v "variant identifier")

/-- The fields that an outcome with the given tag has beside the tag. -/
def shape : Phase → Json.Shape JobOutcome
  | .done => JobOutcome.done <$> Json.Shape.required "result" (SampleResult.decode .held)
  | _ => JobOutcome.failed <$> Json.Shape.required "failure" (Failure.decode .held)

/-- How messages name an outcome with the given tag. -/
def shapeName (tag : Phase) : String :=
  "struct variant JobOutcome::" ++ tag.title

def decode : Decoder JobOutcome
  | .obj fields =>
      match Entries.find? fields tagName with
      | some tag => do Json.recordOfFields (shape (← decodeTag tag)) fields
      | none => .error (.missingField tagName)
  | .arr (tag :: items) => do
      let tag ← decodeTag tag
      Json.recordOfItems (shapeName tag) (shape tag) .held items
  | .arr [] => .error (.missingField tagName)
  | v => .error (Json.mismatch v "internally tagged enum JobOutcome")

end JobOutcome
end QuantumJobs

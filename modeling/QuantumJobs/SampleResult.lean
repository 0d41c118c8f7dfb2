import QuantumJobs.Counts

/-!
# SampleResult — the result of a job

A job runs one or more circuits.  Its result has one histogram per circuit, in the order of
submission, each under the name of the kernel that it belongs to.
-/

namespace QuantumJobs

/-- The histogram of one circuit. -/
structure Execution where
  name : String
  counts : Counts
  deriving DecidableEq, Inhabited

structure SampleResult where
  executions : List Execution
  deriving DecidableEq, Inhabited

namespace SampleResult

def empty : SampleResult := ⟨[]⟩

def single (name : String) (counts : Counts) : SampleResult := ⟨[⟨name, counts⟩]⟩

def size (r : SampleResult) : Nat := r.executions.length

/-- The histogram of the first circuit. -/
def first? (r : SampleResult) : Option Counts :=
  r.executions.head?.map (·.counts)

/-- The histogram of the first circuit under a name. -/
def get? (r : SampleResult) (name : String) : Option Counts :=
  (r.executions.find? (·.name = name)).map (·.counts)

/-- The number of observations over all circuits. -/
def shots (r : SampleResult) : Nat :=
  r.executions.foldr (fun e n => e.counts.shots + n) 0

/-- An execution under its own name if that is one of the kernels, else under the kernel's at its
position. -/
def nameAt (kernels : List String) (e : Execution) (kernel : String) : Execution :=
  if kernels.contains e.name then e else { e with name := kernel }

/-- Names the executions after the submitted kernels, if there is one for each kernel. -/
def nameByKernels (r : SampleResult) (kernels : List String) : SampleResult :=
  if r.executions.length = kernels.length then
    ⟨List.zipWith (nameAt kernels) r.executions kernels⟩
  else r

/-! ## JSON -/

/-- The result as a document: names before counts. -/
def document (r : SampleResult) : Json :=
  .obj [("executions",
    .arr (r.executions.map fun e => .obj [("name", .str e.name), ("counts", e.counts.toJson)]))]

def toJson (r : SampleResult) : Json := r.document.sorted

open Json (Decoder Place Shape)

def decodeExecution (place : Place) : Decoder Execution :=
  Json.record "ExecutionCounts"
    (Execution.mk <$> Shape.required "name" Json.asText <*> Shape.required "counts" Counts.decode)
    place

def decode (place : Place) : Decoder SampleResult :=
  Json.record "SampleResult"
    (SampleResult.mk <$> Shape.required "executions" (Json.listOf (decodeExecution place)))
    place

end SampleResult
end QuantumJobs

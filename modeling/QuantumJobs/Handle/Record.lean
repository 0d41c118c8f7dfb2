import QuantumJobs.Handle.Basic

/-!
# Record — handles as versioned JSON documents

A handle is kept in a file as an indented JSON document that starts with the version of the format.
The reader looks at the version before anything else and refuses every other one.
-/

namespace QuantumJobs
namespace Handle

/-- The version of the format. -/
def recordVersion : Nat := 1

/-- The initial delay in whole milliseconds, as far as a word of sixty-four bits holds it. -/
def delayMillis (h : Handle) : Nat :=
  min h.initialDelay.millis Json.maxUnsigned

/-- The handle as a document, its fields in the order of the format. -/
def document (h : Handle) : Json :=
  .obj ([("version", .int recordVersion),
      ("backend", .str h.backend),
      ("job_id", .str h.job),
      ("status_path", .str h.statusPath),
      ("config", .ofStrings h.config),
      ("kernels", .arr (h.kernels.map .str)),
      ("initial_poll_delay_ms", .int h.delayMillis),
      ("submitted_at", .str h.submittedAt.toText)]
    ++ (h.outcome.map fun o => ("outcome", o.document)).toList)

def toJson (h : Handle) : Json := h.document.sorted

/-- The text of a handle file. -/
def toText (h : Handle) : String := h.document.pretty

/-! ## Reading -/

open Json (Shape)

/-- The fields of a record after the version. -/
def shape : Shape Handle :=
  Handle.mk <$> Shape.required "backend" Json.asText
    <*> Shape.required "job_id" Json.asText
    <*> Shape.required "status_path" Json.asText
    <*> Shape.required "config" Config.decode
    <*> Shape.withDefault "kernels" [] (Json.listOf Json.asText)
    <*> (Span.ofMillis <$> Shape.required "initial_poll_delay_ms" Json.asUnsigned)
    <*> Shape.required "submitted_at" Json.asInstant
    <*> Shape.optional "outcome" JobOutcome.decode

def decodeRecord : Json.Decoder Handle :=
  Json.record "AsyncResultRecord"
    ((fun _ h => h) <$> Shape.required "version" Json.asShort <*> shape)
    .free

/-- The version that a value states. -/
def versionOf (v : Json) : Outcome Nat :=
  match (v.get? "version").bind Json.asUnsigned? with
  | some n => .ok n
  | none => .error (.invalidState "async result record has no 'version' field")

def unsupportedVersion (n : Nat) : Fault :=
  .invalidState ("unsupported async result record version " ++ toString n ++ " (expected "
    ++ toString recordVersion ++ ")")

def ofJson (v : Json) : Outcome Handle := do
  let n ← versionOf v
  if n = recordVersion then (decodeRecord v).mapError fun m => .serialization (.mismatched m)
  else .error (unsupportedVersion n)

/-- Reads the contents of a handle file. -/
def ofBlob (b : Blob) : Outcome Handle := do
  let v ← (Json.ofBlob b).mapError fun e => .serialization (.ofSyntax e)
  ofJson v

end Handle
end QuantumJobs

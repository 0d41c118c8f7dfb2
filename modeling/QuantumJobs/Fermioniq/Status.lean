import QuantumJobs.Fermioniq.Problem

/-!
# Status — the emulator's answer to a status check

A job that is `finished` has succeeded with status code 0 and failed with any other.  A job in any
other status has failed if an error is reported, and is still under way if not.
-/

namespace QuantumJobs
namespace Fermioniq

structure Status where
  status : String
  code : Option Int
  message : Option String
  error : Option Json

namespace Status

open Json (Shape)

def decode : Json.Decoder Status :=
  Json.record "JobStatusResponse"
    (Status.mk <$> Shape.required "status" Json.asText
      <*> Shape.optional "status_code" Json.asSigned
      <*> Shape.optional "status_message" Json.asText
      <*> Shape.optional "error" Json.asIs)
    .free

/-- Decodes a message; a mismatch is reported with the whole message. -/
def reading {α : Type} (decode : Json.Decoder α) (what : String) (m : Json) : Outcome α :=
  (decode m).mapError fun e =>
    (Problem.unexpected ("invalid " ++ what ++ ": " ++ e.message) m).toFault

/-- The reported error: a text as it is, any other value as JSON. -/
def errorText (s : Status) : Option String :=
  s.error.bind fun
    | .null => none
    | .str text => some text
    | v => some v.text

/-- The message of a job that finished with a code other than 0. -/
def finishedMessage (s : Status) (code : Int) : String :=
  (s.message.or s.errorText).getD ("job finished with status code " ++ toString code)

/-- Whether the job has succeeded; `m` is the message that the status was read from. -/
def isDone (s : Status) (m : Json) : Outcome Bool :=
  if s.status = "finished" then
    match s.code with
    | some code =>
        if code = 0 then .ok true
        else .error (Problem.jobFailed (some code) (s.finishedMessage code)).toFault
    | none => .error (.malformedResponse "finished job has no 'status_code'" m)
  else
    match s.errorText with
    | some text => .error (Problem.jobFailed s.code text).toFault
    | none => .ok false

def isDoneMessage (m : Json) : Outcome Bool := do
  let s ← reading decode "job status" m
  s.isDone m

end Status
end Fermioniq
end QuantumJobs

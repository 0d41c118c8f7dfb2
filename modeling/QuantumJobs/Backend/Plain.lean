import QuantumJobs.Backend.Basic
import QuantumJobs.Message

/-!
# Plain — a minimal backend

The plain backend needs no login and has the simplest wire format: jobs are posted to `/jobs`, a
status is finished with code 0, and results are a histogram in the status itself.  It takes its name
from outside and keeps a list of the results it was asked to read, so that a whole job life can be
rehearsed and watched.
-/

namespace QuantumJobs
namespace Plain

structure Session where
  name : String
  config : Config
  baseUrl : String
  apiKey : String
  /-- The results read so far: job and message. -/
  reads : List (String × Json)
  deriving Inhabited

namespace Session

def fresh (name : String) : Session := ⟨name, Dict.empty, "", "", []⟩

def headers (s : Session) : Headers :=
  let common : Headers := Dict.ofList
    [("Content-Type", "application/json"), ("User-Agent", "qrest-tests")]
  if s.apiKey = "" then common else common.insert "x-api-key" s.apiKey

def connect (_env : Environment) (c : Config) : Dialogue Session (Outcome Unit) :=
  match Config.require c "base_url" with
  | .error fault => .done (.error fault)
  | .ok baseUrl => do
      Dialogue.modify fun s =>
        { s with config := c, baseUrl, apiKey := Config.valueOr c "api_key" "" }
      return .ok ()

/-- Does nothing, or fails where the configuration says so. -/
def refresh : Dialogue Session (Outcome Unit) := do
  let s ← Dialogue.state
  if s.config.get? "refresh" = some "fail" then return .error (.authentication "refresh refused")
  else return .ok ()

def payload (s : Session) (kernels : List Kernel) : Outcome Payload :=
  .ok ⟨"/jobs", s.headers, .obj [
    ("circuits", .arr (kernels.map fun k => .str k.code)),
    ("names", .arr (kernels.map fun k => .str k.name))]⟩

def statusPath (job : String) : String := "/jobs/" ++ job

def resultsPath (s : Session) (job : String) : Option String :=
  if s.config.contains "results_path" then some (statusPath job ++ "/results") else none

def isDone (m : Json) : Outcome Bool :=
  match (m.get? "error").filter fun e => !e.isNull with
  | some e => .error (.jobFailed none e.text)
  | none => do
      if (← Message.text m "status") = "finished" then
        let code ← Message.signed m "status_code"
        if code = 0 then .ok true
        else
          let message ← Message.optionalText m "message"
          .error (.jobFailed (some code) (message.getD "job finished with an error"))
      else .ok false

/-- The histogram of a message. -/
def counts (m : Json) : Outcome Counts :=
  match m.get? "counts" with
  | none => .ok Dict.empty
  | some (.obj fields) => do
      let pairs ← fields.mapM fun f =>
        match f.2.asUnsigned? with
        | some n => Except.ok (f.1, n)
        | none => .error (.malformedResponse "count is not an integer" m)
      .ok (Counts.ofPairs pairs)
  | some _ => .error (.malformedResponse "'counts' is not an object" m)

/-- Notes the message and reads its histogram. -/
def results (m : Json) (job : String) (s : Session) : Outcome SampleResult × Session :=
  ((counts m).map (SampleResult.single job), { s with reads := s.reads ++ [(job, m)] })

/-- The milliseconds that a message asks for, or else a second. -/
def interval (m : Json) : Span :=
  match (m.get? "poll_ms").bind Json.asUnsigned? with
  | some n => .ofMillis n
  | none => .ofSeconds 1

end Session

def backend : Backend Session where
  name s := s.name
  baseUrl s := s.baseUrl
  headers := Session.headers
  user _ := none
  persisted s := Config.without s.config ["api_key"]
  connect := Session.connect
  refresh := Session.refresh
  payload := Session.payload
  jobOf _ response := Message.text response "id"
  statusPath _ := Session.statusPath
  resultsPath := Session.resultsPath
  isDone _ := Session.isDone
  results := Session.results
  interval _ := Session.interval

end Plain
end QuantumJobs

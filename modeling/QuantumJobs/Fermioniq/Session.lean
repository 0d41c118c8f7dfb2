import QuantumJobs.Backend.Basic
import QuantumJobs.Fermioniq.Results
import QuantumJobs.Fermioniq.Settings
import QuantumJobs.TokenCache.Basic

/-!
# Session — the Fermioniq emulator as a backend

Taking a configuration into use logs in at once.  The token of the latest successful login stands in
all headers, also while later logins fail.  All circuits of a submission travel in one job.
-/

namespace QuantumJobs
namespace Fermioniq

structure Session where
  /-- Empty until a configuration has been taken into use. -/
  settings : Option Settings
  tokens : TokenCache
  deriving DecidableEq, Inhabited

namespace Session

def fresh : Session := ⟨none, .empty⟩

def baseUrl (s : Session) : String :=
  match s.settings with
  | some settings => settings.baseUrl
  | none => defaultBaseUrl

def headers (s : Session) : Headers :=
  match s.settings with
  | none => Dict.empty
  | some settings =>
      match s.tokens.text?.filter (· ≠ "") with
      | some token => settings.headers.insert "Authorization" ("Bearer " ++ token)
      | none => settings.headers

def persisted (s : Session) : Config :=
  match s.settings with
  | some settings => settings.persisted
  | none => Dict.empty

/-! ## Login -/

/-- Exchanges the access token for a bearer token. -/
def login : Dialogue Session (Outcome Token) := do
  match (← Dialogue.state).settings with
  | none => return .error Problem.notInitialized.toFault
  | some settings =>
      match ← Dialogue.request settings.loginRequest with
      | .error fault => return .error fault
      | .ok response =>
          return Token.ofLogin response "jwt_token" (some "user_id") (← Dialogue.now)

/-- Notes a completed login. -/
def record (answer : Outcome Token) (s : Session) : Session :=
  { s with tokens := (s.tokens.record answer).2 }

/-- Logs in and keeps the token.  The caller's turn comes at once, so it shares no other login. -/
def refresh : Dialogue Session (Outcome Unit) := do
  let answer ← login
  .change (record answer) fun s => .done ((s.tokens.record answer).1.map fun _ => ())

/-- Takes settings into use; tokens of earlier settings are dropped. -/
def configure (settings : Settings) (s : Session) : Session :=
  ⟨some settings, s.tokens.clear⟩

def connect (env : Environment) (c : Config) : Dialogue Session (Outcome Unit) :=
  match Settings.ofConfig env c with
  | .error fault => .done (.error fault)
  | .ok settings => do
      Dialogue.modify (configure settings)
      refresh

/-! ## Jobs -/

def jobsPath : String := "/api/jobs"

def statusPath (job : String) : String := jobsPath ++ "/" ++ job

def resultsPath (job : String) : String := statusPath job ++ "/results"

/-- A field for each value that is set. -/
def optionalField (name : String) (value : Option Json) : List (String × Json) :=
  (value.map fun v => (name, v)).toList

def jobBody (settings : Settings) (user : String) (kernels : List Kernel) : Json :=
  Json.ofFields (
    [("circuit", .arr (kernels.map fun k => .str k.code)),
      ("circuit_names", .arr (kernels.map fun k => .str k.name)),
      ("user_id", .str user)]
    ++ optionalField "remote_config" (settings.remoteConfig.map .str)
    ++ optionalField "noise_model" (settings.noiseModel.map .str)
    ++ optionalField "project_id" (settings.project.map .str)
    ++ optionalField "emulator_config"
      (settings.bondDim.map fun n => .obj [("bond_dim", .int n)]))

def payload (s : Session) (kernels : List Kernel) : Outcome Payload :=
  match s.settings with
  | none => .error Problem.notInitialized.toFault
  | some settings =>
      match s.tokens.user? with
      | none => .error Problem.notLoggedIn.toFault
      | some user => .ok ⟨jobsPath, s.headers, jobBody settings user kernels⟩

/-- A submission is phrased by a session that has settings and a user, and goes to the path of jobs
with the headers of the session. -/
theorem of_payload {s : Session} {kernels : List Kernel} {p : Payload}
    (phrased : s.payload kernels = .ok p) :
    ∃ settings user, s.settings = some settings ∧ s.tokens.user? = some user ∧
      p = ⟨jobsPath, s.headers, jobBody settings user kernels⟩ := by
  unfold payload at phrased
  cases hs : s.settings with
  | none => simp [hs] at phrased
  | some settings =>
      cases hu : s.tokens.user? with
      | none => simp [hs, hu] at phrased
      | some user =>
          simp only [hs, hu, Except.ok.injEq] at phrased
          exact ⟨settings, user, rfl, rfl, phrased.symm⟩

/-- The identifier in the answer to a submission: a text that is not empty. -/
def jobOf (response : Json) : Outcome String :=
  match ((response.get? "id").bind Json.asString?).filter (· ≠ "") with
  | some job => .ok job
  | none => .error (.malformedResponse "submission response has no 'id' string" response)

/-- The session for diagnosis; the token is never shown. -/
def debugText (s : Session) : String :=
  "FermioniqServerHelper \x7b base_url: " ++ Text.quoted s.baseUrl ++ ", initialized: "
    ++ (if s.settings.isSome then "true" else "false") ++ ", token: " ++ Text.quoted Config.redacted
    ++ " \x7d"

end Session

/-- How long to wait between status checks. -/
def pollingInterval : Span := .ofSeconds 1

/-- The emulator as a backend. -/
def backend : Backend Session where
  name _ := backendName
  baseUrl := Session.baseUrl
  headers := Session.headers
  user s := s.tokens.user?
  persisted := Session.persisted
  connect := Session.connect
  refresh := Session.refresh
  payload := Session.payload
  jobOf _ := Session.jobOf
  statusPath _ := Session.statusPath
  resultsPath _ job := some (Session.resultsPath job)
  isDone _ := Status.isDoneMessage
  results response _ s := (Results.ofMessage response, s)
  interval _ _ := pollingInterval

end Fermioniq
end QuantumJobs

import QuantumJobs.Config
import QuantumJobs.Fermioniq.Problem
import QuantumJobs.Release
import QuantumJobs.Request

/-!
# Settings — a validated Fermioniq configuration

The two halves of the access token must be given by the configuration or by the environment.  All
other settings are optional.  Of several faults the first in the order of the checks is reported:
access token id, access token secret, bond dimension.
-/

namespace QuantumJobs
namespace Fermioniq

/-! ## Names -/

def backendName : String := "fermioniq"

def defaultBaseUrl : String := "https://fermioniq-api-fapp-prod.azurewebsites.net"

def apiKeyVariable : String := "FERMIONIQ_API_KEY"

def accessIdVariable : String := "FERMIONIQ_ACCESS_TOKEN_ID"

def accessSecretVariable : String := "FERMIONIQ_ACCESS_TOKEN_SECRET"

/-- The keys whose values are never written down. -/
def secretKeys : List String := ["api_key", "access_token_id", "access_token_secret"]

def defaultUserAgent : String := Release.name ++ "/" ++ Release.version

/-! ## Settings -/

structure Settings where
  /-- Without a slash at its end. -/
  baseUrl : String
  /-- Empty if there is none. -/
  apiKey : String
  accessId : String
  accessSecret : String
  userAgent : String
  remoteConfig : Option String
  noiseModel : Option String
  project : Option String
  bondDim : Option Nat
  /-- The configuration without secrets. -/
  persisted : Config
  deriving DecidableEq, Inhabited

namespace Settings

/-- The greatest bond dimension: the greatest number of thirty-two bits. -/
def maxBondDim : Nat := 4294967295

/-- Reads a bond dimension: a positive decimal number, with or without a plus sign and white space
around it. -/
def bondDim? (raw : String) : Option Nat :=
  (Text.natural? (Text.trimChars raw.toList)).filter fun n => 0 < n && n ≤ maxBondDim

def bondDimOf (c : Config) : Outcome (Option Nat) :=
  match c.get? "bond_dim" with
  | none => .ok none
  | some raw =>
      match bondDim? raw with
      | some n => .ok (some n)
      | none => .error (Problem.invalidBondDim raw).toFault

def ofConfig (env : Environment) (c : Config) : Outcome Settings := do
  let accessId ← c.resolve env "access_token_id" accessIdVariable
  let accessSecret ← c.resolve env "access_token_secret" accessSecretVariable
  let bondDim ← bondDimOf c
  let baseUrl := Text.trimEndOf '/' (Config.valueOr c "base_url" defaultBaseUrl)
  .ok {
    baseUrl, accessId, accessSecret, bondDim
    apiKey := (Config.lookup c env "api_key" apiKeyVariable).getD ""
    userAgent := ((c.get? "user_agent").filter (· ≠ "")).getD defaultUserAgent
    remoteConfig := c.get? "remote_config"
    noiseModel := c.get? "noise_model"
    project := c.get? "project_id"
    persisted := (Config.without c secretKeys).insert "base_url" baseUrl }

/-- The headers that do not depend on a login. -/
def headers (s : Settings) : Headers :=
  let common : Headers := Dict.ofList
    [("Content-Type", "application/json"), ("User-Agent", s.userAgent)]
  if s.apiKey = "" then common else common.insert "x-functions-key" s.apiKey

/-! ## Login -/

def loginPath : String := "/api/login"

def loginBody (s : Settings) : Json :=
  .obj [("access_token_id", .str s.accessId), ("access_token_secret", .str s.accessSecret)]

def loginRequest (s : Settings) : Request :=
  .post s.baseUrl loginPath s.headers s.loginBody

end Settings
end Fermioniq
end QuantumJobs

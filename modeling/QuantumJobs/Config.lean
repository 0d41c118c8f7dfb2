import QuantumJobs.Fault

/-!
# Config — the configuration of a backend

A configuration maps keys to texts: a base URL, credentials, identifiers, tuning parameters.
Credentials may also come from the environment.  When a configuration is shown for diagnosis, the
values of sensitive keys are replaced by a fixed text.
-/

namespace QuantumJobs

/-- The environment variables of a process. -/
abbrev Environment := Dict String

abbrev Config := Dict String

namespace Config

/-! ## Looking up -/

def require (c : Config) (key : String) : Outcome String :=
  match c.get? key with
  | some v => .ok v
  | none => .error (.missingConfiguration key "")

def valueOr (c : Config) (key default : String) : String :=
  (c.get? key).getD default

/-- The configured value, or else that of the environment variable. -/
def lookup (c : Config) (env : Environment) (key envName : String) : Option String :=
  (c.get? key).or (env.get? envName)

/-- What tells the reader where a missing value can be given. -/
def sourceHint (envName : String) : String :=
  " (set it in the backend configuration or the " ++ envName ++ " environment variable)"

/-- The value of `lookup`, which must not be empty. -/
def resolve (c : Config) (env : Environment) (key envName : String) : Outcome String :=
  match (c.lookup env key envName).filter (· ≠ "") with
  | some v => .ok v
  | none => .error (.missingConfiguration key (sourceHint envName))

/-- The configuration without the given keys. -/
def without (c : Config) (keys : List String) : Config :=
  c.filterKeys fun key => !keys.contains key

def decode : Json.Decoder Config := Json.dictOf Json.asText

/-! ## Showing -/

/-- A key that contains one of these, in any letter case, is sensitive. -/
def sensitiveParts : List String := ["secret", "token", "password", "api_key"]

def isSensitive (key : String) : Bool :=
  let key := (Text.asciiLower key).toList
  sensitiveParts.any fun part => Text.occursIn part.toList key

/-- What stands in the place of a sensitive value. -/
def redacted : String := "[REDACTED]"

def shownValue (e : String × String) : String :=
  Text.quoted (if isSensitive e.1 then redacted else e.2)

def shownEntry (e : String × String) : String := Text.quoted e.1 ++ ": " ++ shownValue e

/-- The entries on one line. -/
def debugText (c : Config) : String :=
  "\x7b" ++ ", ".intercalate (c.entries.map shownEntry) ++ "\x7d"

/-- The entries on a line each. -/
def debugLines (c : Config) : String :=
  if c.isEmpty then "\x7b\x7d"
  else
    "\x7b\n"
      ++ String.join (c.entries.map fun e => "    " ++ shownEntry e ++ ",\n")
      ++ "\x7d"

end Config
end QuantumJobs

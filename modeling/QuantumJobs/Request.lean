import QuantumJobs.Json.Basic
import QuantumJobs.Text.Blank

/-!
# Request — what a client sends

A request goes to a path below a base URL, which are joined by exactly one slash.
-/

namespace QuantumJobs

inductive Method
  | get
  | post
  deriving DecidableEq, Repr, Inhabited

def Method.title : Method → String
  | .get => "Get"
  | .post => "Post"

abbrev Headers := Dict String

structure Request where
  method : Method
  base : String
  path : String
  headers : Headers
  /-- Null for a GET. -/
  body : Json
  deriving BEq, Inhabited

/-- Base and path joined by one slash; an empty path adds none. -/
def joinUrl (base path : String) : String :=
  if path.isEmpty then Text.trimEndOf '/' base
  else Text.trimEndOf '/' base ++ "/" ++ Text.trimStartOf '/' path

def Request.url (r : Request) : String := joinUrl r.base r.path

def Request.get (base path : String) (headers : Headers) : Request :=
  ⟨.get, base, path, headers, .null⟩

def Request.post (base path : String) (headers : Headers) (body : Json) : Request :=
  ⟨.post, base, path, headers, body⟩

end QuantumJobs

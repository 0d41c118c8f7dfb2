import QuantumJobs.Network.Host

/-!
# Url — where an HTTP request goes

A URL in its parts, each as it is written: percent-encoded, and freed of what does not change its
meaning.
-/

namespace QuantumJobs

/-- The machine that a URL leads to, and who asks it. -/
structure Authority where
  /-- Percent-encoded; empty if nobody is named. -/
  user : String
  password : Option String
  host : Host
  /-- Empty for the port that the scheme stands for. -/
  port : Option Nat
  deriving DecidableEq, Repr

structure Url where
  scheme : String
  authority : Option Authority
  /-- It starts with a slash or is empty, unless there is no authority. -/
  path : String
  query : Option String
  fragment : Option String
  deriving DecidableEq, Repr

namespace Authority

/-- Host and port. -/
def place (a : Authority) : String :=
  a.host.text ++ (a.port.map fun n => ":" ++ toString n).getD ""

def text (a : Authority) : String :=
  let secret := (a.password.map (":" ++ ·)).getD ""
  let user := a.user ++ secret
  (if user = "" then "" else user ++ "@") ++ a.place

def decoded? (s : String) : Option String := (Percent.decode? s.toList).map String.ofList

/-- The name and the password of the one who asks, if either is given and the name is text. -/
def credentials? (a : Authority) : Option (String × Option String) := do
  let user ← decoded? a.user
  let password := a.password.bind decoded?
  if user = "" && password.isNone then none else some (user, password)

def withoutCredentials (a : Authority) : Authority :=
  if a.credentials?.isSome then { a with user := "", password := none } else a

end Authority

namespace Url

/-- The port that a scheme of the web stands for. -/
def usualPort? (scheme : String) : Option Nat :=
  [("http", 80), ("https", 443), ("ws", 80), ("wss", 443), ("ftp", 21)].lookup scheme

def queryText (u : Url) : String := (u.query.map ("?" ++ ·)).getD ""

/-- Path and query, as a request names them. -/
def target (u : Url) : String := u.path ++ u.queryText

/-- The whole URL.  A path that could be taken for an authority is kept apart by a point. -/
def text (u : Url) : String :=
  let place := match u.authority with
    | some a => "//" ++ a.text
    | none => if "//".toList.isPrefixOf u.path.toList then "/." else ""
  u.scheme ++ ":" ++ place ++ u.target ++ (u.fragment.map ("#" ++ ·)).getD ""

def withoutCredentials (u : Url) : Url :=
  { u with authority := u.authority.map (·.withoutCredentials) }

/-- Whether the URL names a host. -/
def hasHost (u : Url) : Bool := u.authority.any fun a => a.host ≠ .empty

/-- Host and port; empty without them. -/
def place (u : Url) : String := (u.authority.map (·.place)).getD ""

/-- The host and the port to connect to, if there are any. -/
def destination? (u : Url) : Option (Host × Nat) := do
  let a ← u.authority
  let port ← a.port.or (usualPort? u.scheme)
  return (a.host, port)

end Url
end QuantumJobs

import QuantumJobs.Dialogue
import QuantumJobs.Json.Printer
import QuantumJobs.Json.Reader
import QuantumJobs.Network.Queues
import QuantumJobs.Network.UrlReader
import QuantumJobs.Text.Base64

/-!
# Http — requests and replies on the wire

A request becomes an HTTP request if its URL and its headers are well formed.  A reply of success
carries nothing, blank text or JSON text; every other reply is a transport fault with its status.
-/

namespace QuantumJobs
namespace Http

/-! ## Replies -/

structure Response where
  status : Nat
  body : Blob

def invalidJson (e : Json.SyntaxError) : String :=
  "response is not valid JSON: " ++ (Json.Error.ofSyntax e).message

/-- The text of a reply; a status without contents has none. -/
def Response.text (r : Response) : String :=
  if r.status = 204 || r.status = 304 then "" else r.body.lenient

def Response.isSuccess (r : Response) : Bool := 200 ≤ r.status && r.status < 300

/-- What a reply says to the client. -/
def Response.message (r : Response) : Outcome Json :=
  if r.isSuccess then
    if (Text.trimChars r.text.toList).isEmpty then .ok .null
    else (Json.ofText r.text).mapError fun e => .transport (some r.status) (invalidJson e)
  else .error (.transport (some r.status) r.text)

/-! ## Requests -/

/-- A request as the server receives it. -/
structure Received where
  method : String
  /-- Path and query. -/
  target : String
  /-- Names in lower case; only those that the client chose, and the content type. -/
  headers : Headers
  /-- Null if there is none. -/
  body : Json

def methodName : Method → String
  | .get => "GET"
  | .post => "POST"

/-- The fault of a request that cannot be phrased. -/
def unphrased : Fault := .transport none "builder error"

/-- The fault of a request to a URL that leads nowhere. -/
def misdirected (u : Url) : Fault :=
  .transport none ("builder error for url (" ++ u.text ++ ")")

/-- The fault of a request that reaches no server. -/
def unreachable (u : Url) : Fault :=
  .transport none ("error sending request for url (" ++ u.text ++ ")")

def isNameChar (c : Char) : Bool :=
  c.isAlphanum || "!#$%&'*+-.^_|~`".toList.contains c

def isHeaderName (name : String) : Bool :=
  name ≠ "" && name.toList.all isNameChar

def isHeaderValue (value : String) : Bool :=
  value.toList.all fun c => (0x20 ≤ c.toNat && c.toNat ≠ 0x7F) || c = '\t'

/-- The text without blanks and tabs at its ends. -/
def trimValue (value : String) : String :=
  let isPad (c : Char) : Bool := c = ' ' || c = '\t'
  String.ofList (Text.dropEndWhile isPad (value.toList.dropWhile isPad))

/-- Headers that say how a message travels, not what it is. -/
def connectionHeaders : List String := ["host", "accept", "connection", "content-length"]

/-- The header by which a name and a password are shown. -/
def credentialsValue (user : String) (password : Option String) : String :=
  "Basic " ++ Base64.ofText (user ++ ":" ++ password.getD "")

/-- The headers on the wire; of names that differ in letter case only, the last one counts. -/
def wireHeaders (credentials : Option (String × Option String)) (r : Request) : Headers :=
  let chosen : Headers :=
    Dict.ofList (r.headers.entries.map fun e => (Text.asciiLower e.1, trimValue e.2))
  let typed : Headers :=
    if r.method = .post && !chosen.contains "content-type" then
      chosen.insert "content-type" "application/json"
    else chosen
  let signed : Headers :=
    match credentials with
    | some (user, password) =>
        if chosen.contains "authorization" then typed
        else typed.insert "authorization" (credentialsValue user password)
    | none => typed
  signed.filterKeys fun name => !connectionHeaders.contains name

/-- The number of bytes that no URL of a request exceeds. -/
def longestUrl : Nat := 65534

/-- Whether requests can be sent to a URL with a host: it is one of the web's two schemes for them,
is not too long, and its host has no sign that stands for none in a request. -/
def isSendable (u : Url) : Bool :=
  (u.scheme = "http" || u.scheme = "https") && u.text.utf8ByteSize ≤ longestUrl
    && !u.place.toList.any fun c => "\"`\x7b\x7d".toList.contains c

/-- Where a request goes and how it is phrased. -/
def phrase (r : Request) : Outcome (Url × Received) :=
  match Url.read r.url with
  | none => .error unphrased
  | some given =>
      let url := given.withoutCredentials
      if !url.hasHost then .error (misdirected url)
      else if !r.headers.entries.all fun e => isHeaderName e.1 && isHeaderValue e.2 then
        .error unphrased
      else if !isSendable url then .error (misdirected url)
      else
        let credentials := given.authority.bind (·.credentials?)
        .ok (url, ⟨methodName r.method, url.target, wireHeaders credentials r, r.body⟩)

/-! ## Networks -/

/-- The network on which requests travel by HTTP.  A well-formed request is passed on and gives a
reply, or nothing where no server is reached; a request that cannot be phrased is not sent. -/
def networkBy {τ : Type} (deliver : Method → Url → Received → τ → Option Response × τ) :
    Network τ where
  answer r wire :=
    match phrase r with
    | .error fault => (.error fault, wire)
    | .ok (url, received) =>
        match deliver r.method url received wire with
        | (some response, wire) => (response.message, wire)
        | (none, wire) => (.error (unreachable url), wire)

/-! ## A server with prepared replies -/

structure Server where
  /-- Host and port. -/
  place : String
  replies : Queues Response
  received : List Received

def Server.new (place : String) : Server := ⟨place, .empty, []⟩

/-- The reply to a request that no route is prepared for. -/
def noRoute : Response := ⟨404, .text "no route"⟩

def Server.reply (s : Server) (method : Method) (r : Received) : Response × Server :=
  let s := { s with received := s.received ++ [r] }
  match s.replies.take (method, r.target) with
  | (.nothing, _) => (noRoute, s)
  | (.removed a, replies) => (a, { s with replies })
  | (.kept a, replies) => (a, { s with replies })

/-- The network with one server. -/
def network : Network Server :=
  networkBy fun method url r s =>
    if url.scheme = "http" && url.place = s.place then
      let (response, s) := s.reply method r
      (some response, s)
    else (none, s)

end Http
end QuantumJobs

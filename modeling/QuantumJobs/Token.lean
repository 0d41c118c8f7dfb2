import QuantumJobs.Config
import QuantumJobs.Message

/-!
# Token — what a login gives

A login exchanges lasting credentials for a bearer token and, mostly, the identity of the user.
-/

namespace QuantumJobs

structure Token where
  text : String
  user : Option String
  issued : Instant
  deriving DecidableEq, Repr, Inhabited

namespace Token

/-- The text under a field of a login response. -/
def loginField (response : Json) (name : String) (accept : String → Bool) : Outcome String :=
  match ((response.get? name).bind Json.asString?).filter accept with
  | some s => .ok s
  | none => .error (.authentication ("login response has no '" ++ name ++ "' field"))

/-- Reads a login response.  The token must not be empty; the user, if one is asked for, may be. -/
def ofLogin (response : Json) (tokenField : String) (userField : Option String) (now : Instant) :
    Outcome Token := do
  let text ← loginField response tokenField (· ≠ "")
  match userField with
  | none => .ok ⟨text, none, now⟩
  | some name => do
      let user ← loginField response name fun _ => true
      .ok ⟨text, some user, now⟩

/-- The token for diagnosis, its text replaced. -/
def debugText (t : Token) : String :=
  let user := match t.user with
    | some u => "Some(" ++ Text.quoted u ++ ")"
    | none => "None"
  "AuthToken \x7b token: " ++ Text.quoted Config.redacted ++ ", user_id: " ++ user
    ++ ", issued_at: " ++ t.issued.toText ++ " \x7d"

end Token
end QuantumJobs

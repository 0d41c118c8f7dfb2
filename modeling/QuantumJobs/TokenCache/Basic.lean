import QuantumJobs.Token

/-!
# TokenCache — the current token and the count of logins

The cache keeps the token of the latest successful login, and whether the latest login failed.  A
caller notes how many logins have been completed when it asks for a refresh.  If another one was
completed before its turn comes, it shares that login's outcome.
-/

namespace QuantumJobs

structure TokenCache where
  current : Option Token
  /-- What the latest login failed with; empty if it succeeded. -/
  lastFailure : Option String
  /-- The number of completed logins. -/
  attempts : Nat
  /-- The number of successful logins. -/
  generation : Nat
  deriving DecidableEq, Repr, Inhabited

namespace TokenCache

def empty : TokenCache := ⟨none, none, 0, 0⟩

def text? (c : TokenCache) : Option String := c.current.map (·.text)

def user? (c : TokenCache) : Option String := c.current.bind (·.user)

/-- What a caller is answered without a login of its own, if it saw `observed` completed logins when
it asked and its turn has come. -/
def shared? (c : TokenCache) (observed : Nat) : Option (Outcome Token) :=
  if c.attempts = observed then none
  else
    match c.lastFailure with
    | some message => some (.error (.authentication message))
    | none => c.current.map .ok

/-- The message under which a failed login is shared. -/
def failureMessage : Fault → String
  | .authentication message => message
  | fault => fault.message

/-- Notes a completed login and answers the caller that ran it. -/
def record (c : TokenCache) : Outcome Token → Outcome Token × TokenCache
  | .ok t =>
      (.ok t, ⟨some t, none, c.attempts + 1, c.generation + 1⟩)
  | .error fault =>
      let message := failureMessage fault
      (.error (.authentication message), { c with
        lastFailure := some message
        attempts := c.attempts + 1 })

/-- Forgets the current token. -/
def clear (c : TokenCache) : TokenCache := { c with current := none }

/-- A refresh by a caller whose turn comes at once runs its own login. -/
theorem shared?_attempts (c : TokenCache) : c.shared? c.attempts = none := by
  simp [shared?]

end TokenCache
end QuantumJobs

import QuantumJobs.Proofs.ConnectChecks

/-!
# CredentialSources — where the halves of the access token come from

Either half of the access token is taken from the configuration or from the environment, and an
empty text counts as none.  So the environment should fill in wherever the configuration gives
nothing, be it that the key is absent or that its text is empty.  It does the former only: the
empty text of a key that is there goes first and is then found to be empty, and what the
environment offers is never looked at.  Apart from that, a connection misses a half exactly if
neither source offers it, and uses what is offered.
-/

namespace QuantumJobs
namespace Fermioniq

/-! ## The halves of the access token -/

inductive Credential
  | id
  | secret
  deriving DecidableEq, Repr

namespace Credential

/-- The key under which a configuration gives it. -/
def key : Credential → String
  | id => "access_token_id"
  | secret => "access_token_secret"

/-- The environment variable that gives it. -/
def envName : Credential → String
  | id => accessIdVariable
  | secret => accessSecretVariable

/-- The value that settings have. -/
def value (a : Settings) : Credential → String
  | id => a.accessId
  | secret => a.accessSecret

end Credential

/-! ## What the sources offer -/

/-- The configuration offers a value, or else the environment does; neither offers an empty one. -/
inductive Offers (env : Environment) (c : Config) (k : Credential) (value : String) : Prop where
  | configured : c.get? k.key = some value → value ≠ "" → Offers env c k value
  | fromEnvironment : (∀ given, c.get? k.key = some given → given = "") →
      env.get? k.envName = some value → value ≠ "" → Offers env c k value

/-- The environment offers a value that the empty text in the configuration hides. -/
structure Hidden (env : Environment) (c : Config) (k : Credential) : Prop where
  configured : c.get? k.key = some ""
  offered : ∃ value, env.get? k.envName = some value ∧ value ≠ ""

/-- Neither source offers a value, or the one that is offered is hidden. -/
def Lacks (env : Environment) (c : Config) (k : Credential) : Prop :=
  (∀ value, ¬ Offers env c k value) ∨ Hidden env c k

/-- The first of the credentials that are lacking. -/
inductive FirstLacking (env : Environment) (c : Config) : Credential → Prop where
  | id : Lacks env c .id → FirstLacking env c .id
  | secret : ¬ Lacks env c .id → Lacks env c .secret → FirstLacking env c .secret

variable {env : Environment} {c : Config} {k : Credential} {value : String}

/-- What a connection takes is what is offered, unless it is hidden. -/
theorem gives_iff : Gives env c k.key k.envName value ↔ Offers env c k value ∧ ¬ Hidden env c k := by
  constructor
  · rintro ⟨configured | ⟨absent, set⟩, notEmpty⟩
    · refine ⟨.configured configured notEmpty, ?_⟩
      rintro ⟨empty, _⟩
      exact notEmpty (Option.some.inj (configured.symm.trans empty))
    · have nothing : ∀ given, c.get? k.key = some given → given = "" := by simp [absent]
      refine ⟨.fromEnvironment nothing set notEmpty, ?_⟩
      rintro ⟨present, _⟩
      exact absurd (absent.symm.trans present) nofun
  · rintro ⟨offers, seen⟩
    rcases offers with ⟨configured, notEmpty⟩ | ⟨nothing, set, notEmpty⟩
    · exact ⟨.inl configured, notEmpty⟩
    · cases given : c.get? k.key with
      | none => exact ⟨.inr ⟨given, set⟩, notEmpty⟩
      | some text =>
          -- The key is there, so its text is empty and hides the value.
          obtain rfl := nothing text given
          exact absurd ⟨given, value, set, notEmpty⟩ seen

theorem lacks_iff : Lacks env c k ↔ ∀ value, ¬ Gives env c k.key k.envName value := by
  simp only [gives_iff, not_and, not_not]
  constructor
  · rintro (nothing | hidden) value offers
    · exact absurd offers (nothing value)
    · exact hidden
  · intro hides
    by_cases offered : ∃ value, Offers env c k value
    · obtain ⟨value, offers⟩ := offered
      exact .inr (hides value offers)
    · exact .inl fun value offers => offered ⟨value, offers⟩

theorem exists_gives (held : ¬ Lacks env c k) : ∃ value, Gives env c k.key k.envName value := by
  rw [lacks_iff] at held
  push Not at held
  exact held

/-! ## What a connection misses -/

theorem key_injective : Function.Injective Credential.key := by
  intro k k' same
  cases k with
  | id =>
      cases k' with
      | id => rfl
      | secret => exact absurd same (by decide)
  | secret =>
      cases k' with
      | id => exact absurd same (by decide)
      | secret => rfl

/-- The fault of the first check tells of a credential exactly if that is the first one lacking. -/
theorem firstFault_iff (k : Credential) :
    (∃ hint, FirstFault env c (.missingConfiguration k.key hint)) ↔ FirstLacking env c k := by
  constructor
  · rintro ⟨hint, first⟩
    generalize told : Fault.missingConfiguration k.key hint = fault at first
    cases first with
    | accessId missing =>
        obtain ⟨same, _⟩ := Fault.missingConfiguration.inj told
        obtain rfl : k = .id := key_injective same
        exact .id (lacks_iff.2 missing)
    | accessSecret hasId missing =>
        obtain ⟨same, _⟩ := Fault.missingConfiguration.inj told
        obtain rfl : k = .secret := key_injective same
        exact .secret (fun lacks => lacks_iff.1 lacks _ hasId) (lacks_iff.2 missing)
    | bondDim => cases told
  · intro first
    cases first with
    | id lacks => exact ⟨_, .accessId (lacks_iff.1 lacks)⟩
    | secret hasId lacks =>
        obtain ⟨id, gives⟩ := exists_gives hasId
        exact ⟨_, .accessSecret gives (lacks_iff.1 lacks)⟩

/-- The settings of a configuration have what is offered. -/
theorem offers_of_ofConfig {a : Settings} (valid : Settings.ofConfig env c = .ok a)
    (k : Credential) : Offers env c k (k.value a) := by
  obtain ⟨hasId, hasSecret⟩ := givesAccess_of_ofConfig valid
  cases k with
  | id => exact (gives_iff.1 hasId).1
  | secret => exact (gives_iff.1 hasSecret).1

namespace Session

section

variable {τ : Type} {net : Network τ} {now : Instant} {line : Line Session τ} {fault : Fault}

/-- A connection misses a configuration only if a check finds it missing: a login that fails, with
whatever fault, is a refusal. -/
theorem connect_missing_iff {key hint : String} :
    ((connect env c).run net now line).1 = .error (.missingConfiguration key hint) ↔
      FirstFault env c (.missingConfiguration key hint) := by
  rw [← ofConfig_eq_error]
  cases checked : Settings.ofConfig env c with
  | error fault =>
      rw [connect_of_error checked]
      show (Except.error fault : Outcome Unit) = _ ↔ (Except.error fault : Outcome Settings) = _
      rw [Except.error.injEq, Except.error.injEq]
  | ok a =>
      refine iff_of_false ?_ nofun
      intro missing
      have settled : Settled env c (net.answer a.loginRequest line.wire).1
          ((connect env c).run net now line).2.state ((connect env c).run net now line).1 :=
        settled_connect checked
      obtain ⟨_, refused⟩ := settled.fails _ missing
      cases refused

end

/-- Take any configuration and any environment, on any network, and any session that takes them into
use.  The connection fails for a missing credential exactly if that credential is lacking, and of
two it names the identifier: neither source offers a value that is not empty, or the configuration
has the key with an empty text, which hides the value of the environment.  If none is lacking, the
bond dimension is refused, or the settings that come into force have the values that are offered,
and the login that is sent shows these. -/
theorem credential_missing_iff_lacking {τ : Type} (net : Network τ) (now : Instant)
    (env : Environment) (c : Config) (line : Line Session τ) :
    let ran := (backend.connect env c).run net now line
    (∀ k : Credential, (∃ hint, ran.1 = .error (.missingConfiguration k.key hint)) ↔
      FirstLacking env c k) ∧
    ((∀ k, ¬ Lacks env c k) →
      (∃ raw, c.get? "bond_dim" = some raw ∧ Settings.bondDim? raw = none ∧
        ran = (.error (Problem.invalidBondDim raw).toFault, line)) ∨
      ∃ a x, ran.2.state.settings = some a ∧ (∀ k, Offers env c k (k.value a)) ∧
        (backend.connect env c).exchanges net now line = [x] ∧
        x.request.path = Settings.loginPath ∧
        x.request.body = .obj [(Credential.id.key, .str (Credential.id.value a)),
          (Credential.secret.key, .str (Credential.secret.value a))]) := by
  intro ran
  refine ⟨?_, ?_⟩
  · intro k
    calc (∃ hint, ran.1 = .error (.missingConfiguration k.key hint))
        ↔ ∃ hint, FirstFault env c (.missingConfiguration k.key hint) :=
          exists_congr fun hint => connect_missing_iff
      _ ↔ FirstLacking env c k := firstFault_iff k
  · intro held
    cases checked : Settings.ofConfig env c with
    | error fault =>
        have refused : ran = (.error fault, line) := by
          show (connect env c).run net now line = _
          rw [connect_of_error checked]
          rfl
        -- Of the three checks only the last can have failed.
        cases ofConfig_eq_error.1 checked with
        | accessId missing => exact absurd (lacks_iff.2 missing) (held .id)
        | accessSecret _ missing => exact absurd (lacks_iff.2 missing) (held .secret)
        | bondDim _ given invalid => exact .inl ⟨_, given, invalid, refused⟩
    | ok a =>
        have settled : Settled env c (net.answer a.loginRequest line.wire).1 ran.2.state ran.1 :=
          settled_connect checked
        obtain ⟨a', valid, settings⟩ := settled.uses.settings
        cases checked.symm.trans valid
        exact .inr ⟨a, _, settings, offers_of_ofConfig checked,
          exchanges_connect net now line checked, rfl, rfl⟩

/-- One half is configured, and the other one is set in the environment. -/
def halfConfigured : Config := Dict.ofList [("access_token_id", "i")]

def halfSet : Environment := Dict.ofList [("FERMIONIQ_ACCESS_TOKEN_SECRET", "s")]

theorem offers_halfConfigured (k : Credential) : ∃ value, Offers halfSet halfConfigured k value := by
  cases k with
  | id => exact ⟨"i", .configured rfl (by decide)⟩
  | secret => exact ⟨"s", .fromEnvironment nofun rfl (by decide)⟩

theorem not_hidden_halfConfigured (k : Credential) : ¬ Hidden halfSet halfConfigured k := by
  rintro ⟨configured, _⟩
  cases k <;> exact absurd configured (by decide)

/-- Each source offers one half, and the login shows both. -/
theorem halfConfigured_shown :
    (∀ k, ¬ Lacks halfSet halfConfigured k) ∧
      ∃ a x, (∀ k, Offers halfSet halfConfigured k (k.value a)) ∧
        (backend.connect halfSet halfConfigured).exchanges outage ⟨0, 0, 0⟩ ⟨.fresh, (), []⟩ = [x] ∧
        x.request.body = .obj [(Credential.id.key, .str (Credential.id.value a)),
          (Credential.secret.key, .str (Credential.secret.value a))] := by
  have held : ∀ k, ¬ Lacks halfSet halfConfigured k := by
    rintro k (nothing | hidden)
    · obtain ⟨value, offers⟩ := offers_halfConfigured k
      exact nothing value offers
    · exact not_hidden_halfConfigured k hidden
  obtain ⟨_, used⟩ :=
    credential_missing_iff_lacking outage ⟨0, 0, 0⟩ halfSet halfConfigured ⟨.fresh, (), []⟩
  rcases used held with ⟨raw, given, _⟩ | ⟨a, x, _, offers, sent, _, body⟩
  · cases given
  · exact ⟨held, a, x, offers, sent, body⟩

/-! ## A value that is hidden -/

/-- The secret is configured, and the identifier with an empty text. -/
def emptyId : Config := Dict.ofList [("access_token_id", ""), ("access_token_secret", "s")]

def idSet : Environment := Dict.ofList [("FERMIONIQ_ACCESS_TOKEN_ID", "i")]

/-- Every credential is offered, and yet the connection misses the identifier and sends nothing. -/
theorem offered_and_missing :
    Offers idSet emptyId .id "i" ∧ Offers idSet emptyId .secret "s" ∧
      (backend.connect idSet emptyId).run outage ⟨0, 0, 0⟩ ⟨.fresh, (), []⟩
        = (.error (.missingConfiguration "access_token_id" (Config.sourceHint accessIdVariable)),
          ⟨.fresh, (), []⟩) := by
  refine ⟨?_, .configured rfl (by decide), rfl⟩
  refine .fromEnvironment ?_ rfl (by decide)
  intro given configured
  exact (Option.some.inj configured).symm

end Session
end Fermioniq
end QuantumJobs

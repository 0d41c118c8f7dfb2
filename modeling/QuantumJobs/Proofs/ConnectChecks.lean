import QuantumJobs.Proofs.FetchTraces

/-!
# ConnectChecks — a configuration is checked before a session changes

A configuration is taken into use in two stages.  First everything in it is checked, and the first
check that fails ends the matter: nothing is sent, and the session is what it was.  Then the
settings come into force, the token of earlier settings is dropped and one login is sent.  Whether
the session holds a token afterwards depends on the answer to that login alone.
-/

namespace QuantumJobs
namespace Fermioniq

/-! ## Checks -/

/-- What a configuration gives under a key, or else the environment under a name; not empty. -/
structure Gives (env : Environment) (c : Config) (key envName value : String) : Prop where
  given : c.get? key = some value ∨ c.get? key = none ∧ env.get? envName = some value
  notEmpty : value ≠ ""

/-- Both halves of the access token are given. -/
structure GivesAccess (env : Environment) (c : Config) (id secret : String) : Prop where
  id : Gives env c "access_token_id" accessIdVariable id
  secret : Gives env c "access_token_secret" accessSecretVariable secret

/-- The fault of the first check that fails. -/
inductive FirstFault (env : Environment) (c : Config) : Fault → Prop where
  | accessId : (∀ id, ¬ Gives env c "access_token_id" accessIdVariable id) →
      FirstFault env c
        (.missingConfiguration "access_token_id" (Config.sourceHint accessIdVariable))
  | accessSecret {id : String} : Gives env c "access_token_id" accessIdVariable id →
      (∀ secret, ¬ Gives env c "access_token_secret" accessSecretVariable secret) →
        FirstFault env c
          (.missingConfiguration "access_token_secret" (Config.sourceHint accessSecretVariable))
  | bondDim {id secret raw : String} : GivesAccess env c id secret →
      c.get? "bond_dim" = some raw → Settings.bondDim? raw = none →
        FirstFault env c (Problem.invalidBondDim raw).toFault

variable {env : Environment} {c : Config}

section

variable {key envName : String}

theorem lookup_eq_some {value : String} :
    c.lookup env key envName = some value ↔
      c.get? key = some value ∨ c.get? key = none ∧ env.get? envName = some value :=
  Option.or_eq_some_iff

theorem filter_lookup_eq_some {value : String} :
    (c.lookup env key envName).filter (· ≠ "") = some value ↔ Gives env c key envName value := by
  rw [Option.filter_eq_some_iff, lookup_eq_some, decide_eq_true_iff]
  exact ⟨fun ⟨given, notEmpty⟩ => ⟨given, notEmpty⟩, fun ⟨given, notEmpty⟩ => ⟨given, notEmpty⟩⟩

theorem resolve_eq_ok {value : String} :
    c.resolve env key envName = .ok value ↔ Gives env c key envName value := by
  rw [← filter_lookup_eq_some, Config.resolve]
  cases (c.lookup env key envName).filter (· ≠ "") <;> simp

theorem resolve_eq_error {fault : Fault} :
    c.resolve env key envName = .error fault ↔
      (∀ value, ¬ Gives env c key envName value) ∧
        fault = .missingConfiguration key (Config.sourceHint envName) := by
  simp only [← filter_lookup_eq_some]
  rw [Config.resolve]
  cases (c.lookup env key envName).filter (· ≠ "") <;> simp [eq_comm]

end

theorem bondDimOf_eq_error {fault : Fault} :
    Settings.bondDimOf c = .error fault ↔
      ∃ raw, c.get? "bond_dim" = some raw ∧ Settings.bondDim? raw = none ∧
        fault = (Problem.invalidBondDim raw).toFault := by
  unfold Settings.bondDimOf
  cases c.get? "bond_dim" with
  | none => simp
  | some raw => cases read : Settings.bondDim? raw <;> simp [read, eq_comm]

/-- A configuration is refused for the first check that fails, and only then. -/
theorem ofConfig_eq_error {fault : Fault} :
    Settings.ofConfig env c = .error fault ↔ FirstFault env c fault := by
  unfold Settings.ofConfig
  constructor
  · intro refused
    cases first : c.resolve env "access_token_id" accessIdVariable with
    | error e =>
        rw [first] at refused
        cases refused
        obtain ⟨missing, rfl⟩ := resolve_eq_error.1 first
        exact .accessId missing
    | ok id =>
        rw [first] at refused
        have hasId := resolve_eq_ok.1 first
        cases second : c.resolve env "access_token_secret" accessSecretVariable with
        | error e =>
            rw [second] at refused
            cases refused
            obtain ⟨missing, rfl⟩ := resolve_eq_error.1 second
            exact .accessSecret hasId missing
        | ok secret =>
            rw [second] at refused
            cases third : Settings.bondDimOf c with
            | error e =>
                rw [third] at refused
                cases refused
                obtain ⟨raw, given, invalid, rfl⟩ := bondDimOf_eq_error.1 third
                exact .bondDim ⟨hasId, resolve_eq_ok.1 second⟩ given invalid
            | ok n =>
                rw [third] at refused
                cases refused
  · intro first
    cases first with
    | accessId missing =>
        rw [resolve_eq_error.2 ⟨missing, rfl⟩]
        rfl
    | accessSecret hasId missing =>
        rw [resolve_eq_ok.2 hasId, resolve_eq_error.2 ⟨missing, rfl⟩]
        rfl
    | bondDim access given invalid =>
        rw [resolve_eq_ok.2 access.id, resolve_eq_ok.2 access.secret,
          bondDimOf_eq_error.2 ⟨_, given, invalid, rfl⟩]
        rfl

/-- The settings of a configuration have the access token that it gives. -/
theorem givesAccess_of_ofConfig {a : Settings} (valid : Settings.ofConfig env c = .ok a) :
    GivesAccess env c a.accessId a.accessSecret :=
  have sourced := Settings.sourced_of_ofConfig valid
  ⟨resolve_eq_ok.1 sourced.accessId, resolve_eq_ok.1 sourced.accessSecret⟩

namespace Session

/-! ## Taking a configuration into use -/

section

variable {τ : Type} {net : Network τ} {now : Instant} {line : Line Session τ}

theorem connect_of_error {fault : Fault} (refused : Settings.ofConfig env c = .error fault) :
    connect env c = .done (.error fault) := by
  unfold connect
  rw [refused]

/-- The settings come into force before the login is sent. -/
theorem connect_of_ok {a : Settings} (valid : Settings.ofConfig env c = .ok a) :
    connect env c = (do Dialogue.modify (configure a); refresh) := by
  unfold connect
  rw [valid]

/-- A login that fails, for whatever reason, is a refusal. -/
theorem refusal_of_refresh {fault : Fault} (failed : (refresh.run net now line).1 = .error fault) :
    ∃ message, fault = .authentication message := by
  simp only [refresh, Dialogue.run_bind] at failed
  cases answer : (login.run net now line).1 with
  | error cause =>
      rw [answer] at failed
      cases failed
      exact ⟨_, rfl⟩
  | ok t =>
      rw [answer] at failed
      cases failed

end

/-- The settings of a configuration are in force: everything is sent to its base URL, without
slashes at the end, and it is persisted with that base URL and without its secrets. -/
structure Uses (s : Session) (env : Environment) (c : Config) : Prop where
  settings : ∃ a, Settings.ofConfig env c = .ok a ∧ s.settings = some a
  baseUrl : s.baseUrl = Text.trimEndOf '/' (Config.valueOr c "base_url" defaultBaseUrl)
  persisted : s.persisted = (Config.without c secretKeys).insert "base_url" s.baseUrl

theorem uses_of_settings {s : Session} {a : Settings} (valid : Settings.ofConfig env c = .ok a)
    (settings : s.settings = some a) : s.Uses env c := by
  have sourced := Settings.sourced_of_ofConfig valid
  have url : s.baseUrl = a.baseUrl := by
    unfold Session.baseUrl
    rw [settings]
  refine ⟨⟨a, valid, settings⟩, url.trans sourced.baseUrl, ?_⟩
  rw [url, ← sourced.persisted]
  exact persisted_of_settings settings

/-- The request is the login that a configuration calls for. -/
structure LoginFor (env : Environment) (c : Config) (r : Request) : Prop where
  method : r.method = .post
  base : r.base = Text.trimEndOf '/' (Config.valueOr c "base_url" defaultBaseUrl)
  path : r.path = "/api/login"
  body : ∃ id secret, GivesAccess env c id secret ∧
    r.body = .obj [("access_token_id", .str id), ("access_token_secret", .str secret)]

theorem loginFor_of_ofConfig {a : Settings} (valid : Settings.ofConfig env c = .ok a) :
    LoginFor env c a.loginRequest where
  method := rfl
  base := (Settings.sourced_of_ofConfig valid).baseUrl
  path := rfl
  body := ⟨a.accessId, a.accessSecret, givesAccess_of_ofConfig valid, rfl⟩

/-- What a session is after the one login of a connection, and how the connection ends. -/
structure Settled (env : Environment) (c : Config) (answer : Outcome Json) (s : Session)
    (outcome : Outcome Unit) : Prop where
  uses : s.Uses env c
  /-- A token is held exactly if the login gave one, and it is that one. -/
  holds : ∀ text user, s.Holds text user ↔ Grants answer text user
  held : s.tokens.current.isSome = true ↔ ∃ text user, Grants answer text user
  succeeds : outcome = .ok () ↔ ∃ text user, Grants answer text user
  fails : ∀ fault, outcome = .error fault → ∃ message, fault = .authentication message

/-- A login gives a token exactly if its answer grants one. -/
theorem exists_tokenOf_iff {answer : Outcome Json} (now : Instant) :
    (∃ t, tokenOf now answer = .ok t) ↔ ∃ text user, Grants answer text user := by
  constructor
  · rintro ⟨t, read⟩
    obtain ⟨user, _, grants⟩ := tokenOf_eq_ok.1 read
    exact ⟨t.text, user, grants⟩
  · rintro ⟨text, user, grants⟩
    exact ⟨⟨text, some user, now⟩, tokenOf_eq_ok.2 ⟨user, rfl, grants⟩⟩

/-- The token that a login gives is held for its user. -/
theorem holds_iff_of_tokenOf {answer : Outcome Json} {now : Instant} {s : Session}
    (current : s.tokens.current = (tokenOf now answer).toOption) (text user : String) :
    s.Holds text user ↔ Grants answer text user := by
  unfold Holds
  rw [current]
  constructor
  · rintro ⟨t, held, rfl, whose⟩
    cases read : tokenOf now answer with
    | error fault =>
        rw [read] at held
        cases held
    | ok t' =>
        rw [read] at held
        cases held
        obtain ⟨user', whole, grants⟩ := tokenOf_eq_ok.1 read
        rw [whole] at whose
        cases whose
        exact grants
  · intro grants
    have read : tokenOf now answer = .ok ⟨text, some user, now⟩ :=
      tokenOf_eq_ok.2 ⟨user, rfl, grants⟩
    rw [read]
    exact ⟨_, rfl, rfl, rfl⟩

theorem exchanges_connect {τ : Type} (net : Network τ) (now : Instant) (line : Line Session τ)
    {a : Settings} (valid : Settings.ofConfig env c = .ok a) :
    (connect env c).exchanges net now line
      = [⟨a.loginRequest, (net.answer a.loginRequest line.wire).1⟩] := by
  have settings : (line.state.configure a).settings = some a := rfl
  rw [connect_of_ok valid]
  exact exchanges_refresh net now settings

theorem settled_connect {τ : Type} {net : Network τ} {now : Instant} {line : Line Session τ}
    {a : Settings} (valid : Settings.ofConfig env c = .ok a) :
    Settled env c (net.answer a.loginRequest line.wire).1
      ((connect env c).run net now line).2.state ((connect env c).run net now line).1 := by
  -- The login is sent by a session that has the settings and no token.
  let configured : Line Session τ := { line with state := line.state.configure a }
  have settings : configured.state.settings = some a := rfl
  have run : (connect env c).run net now line = refresh.run net now configured := by
    rw [connect_of_ok valid]
    rfl
  have current : (refresh.run net now configured).2.state.tokens.current
      = (tokenOf now (net.answer a.loginRequest line.wire).1).toOption := by
    rw [current_refresh net now settings]
    cases tokenOf now (net.answer a.loginRequest line.wire).1 <;> rfl
  rw [run]
  refine ⟨uses_of_settings valid (settings_run_refresh configured), ?_, ?_, ?_, ?_⟩
  · exact holds_iff_of_tokenOf current
  · rw [current, ← exists_tokenOf_iff now]
    cases tokenOf now (net.answer a.loginRequest line.wire).1 <;> simp [Except.toOption]
  · rw [← exists_tokenOf_iff now]
    exact answer_refresh settings
  · exact fun fault failed => refusal_of_refresh failed

/-- What taking a configuration into use does to a session, whatever the session is, whatever
network it talks to and whatever else has been sent.  If a credential is missing or the bond
dimension is invalid, the fault is that of the first failing check, in the order of access token id,
access token secret and bond dimension; nothing is sent, and all is as it was.  Otherwise exactly
one request is sent, the login at the configured base URL with the two credentials.  Then the
settings are in force, and there is a token exactly if the login was granted one; if it was not, the
fault is one of authentication. -/
theorem checked_before_login {τ : Type} (net : Network τ) (now : Instant) (env : Environment)
    (c : Config) (line : Line Session τ) :
    (∀ fault, FirstFault env c fault →
        (backend.connect env c).run net now line = (.error fault, line) ∧
          (backend.connect env c).exchanges net now line = []) ∧
      ((∀ fault, ¬ FirstFault env c fault) →
        ∃ x, (backend.connect env c).exchanges net now line = [x] ∧ LoginFor env c x.request ∧
          Settled env c x.answer ((backend.connect env c).run net now line).2.state
            ((backend.connect env c).run net now line).1) := by
  constructor
  · intro fault first
    have refused : backend.connect env c = .done (.error fault) :=
      connect_of_error (ofConfig_eq_error.2 first)
    rw [refused]
    exact ⟨rfl, rfl⟩
  · intro sound
    cases valid : Settings.ofConfig env c with
    | error fault => exact absurd (ofConfig_eq_error.1 valid) (sound fault)
    | ok a =>
        exact ⟨_, exchanges_connect net now line valid, loginFor_of_ofConfig valid,
          settled_connect valid⟩

/-- A bond dimension of zero. -/
def zeroBondDim : Config := slashedUrl.insert "bond_dim" "0"

theorem firstFault_zeroBondDim :
    FirstFault .empty zeroBondDim (Problem.invalidBondDim "0").toFault :=
  .bondDim ⟨⟨.inl rfl, by decide⟩, ⟨.inl rfl, by decide⟩⟩
    (rfl : zeroBondDim.get? "bond_dim" = _) rfl

theorem not_firstFault_otherSite (fault : Fault) : ¬ FirstFault .empty otherSite fault := by
  intro first
  have refused := ofConfig_eq_error.2 first
  cases refused

/-- A session that is logged in is offered an invalid configuration and one whose login fails. -/
theorem checked_before_login_slashedLine :
    FirstFault .empty zeroBondDim (Problem.invalidBondDim "0").toFault ∧
      (backend.connect .empty zeroBondDim).run outage ⟨0, 0, 0⟩ (slashedLine "first")
        = (.error (Problem.invalidBondDim "0").toFault, slashedLine "first") ∧
      (∀ fault, ¬ FirstFault .empty otherSite fault) ∧
      ∃ x, (backend.connect .empty otherSite).exchanges outage ⟨0, 0, 0⟩ (slashedLine "first")
          = [x] ∧
        LoginFor .empty otherSite x.request ∧
        Settled .empty otherSite x.answer
          ((backend.connect .empty otherSite).run outage ⟨0, 0, 0⟩ (slashedLine "first")).2.state
          ((backend.connect .empty otherSite).run outage ⟨0, 0, 0⟩ (slashedLine "first")).1 := by
  obtain ⟨refused, _⟩ :=
    checked_before_login outage ⟨0, 0, 0⟩ .empty zeroBondDim (slashedLine "first")
  obtain ⟨_, accepted⟩ :=
    checked_before_login outage ⟨0, 0, 0⟩ .empty otherSite (slashedLine "first")
  exact ⟨firstFault_zeroBondDim, (refused _ firstFault_zeroBondDim).1, not_firstFault_otherSite,
    accepted not_firstFault_otherSite⟩

end Session
end Fermioniq
end QuantumJobs

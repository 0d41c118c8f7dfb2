import QuantumJobs.Fermioniq.Session
import QuantumJobs.Handle.Record
import QuantumJobs.Proofs.DictLookup
import QuantumJobs.Proofs.Twins

/-!
# SecretFree — no secret shows in the record of a Fermioniq job

Two runs are compared whose credentials and tokens may differ.  Credentials come from the
configuration or the environment and go into the settings, the headers and the body of a login; a
token comes from the answer to a login and goes into the headers.  Nothing else of a session, of its
requests and of the answers to them may differ, and nothing that becomes part of a handle reads any
of it.
-/

namespace QuantumJobs

/-! ## What may differ -/

/-- A token without its text. -/
def Token.bare (t : Token) : Token := { t with text := "" }

/-- A login response with a token that is not empty gives that token and the user that it names. -/
theorem Token.ofLogin_text {m : Json} {field text : String} (found : m.get? field = some (.str text))
    (nonempty : text ≠ "") (userField : String) (now : Instant) :
    ofLogin m field (some userField) now
      = (loginField m userField fun _ => true).map fun user => ⟨text, some user, now⟩ := by
  have token : loginField m field (· ≠ "") = .ok text := by
    simp [loginField, found, Json.asString?, Option.filter, nonempty]
  unfold ofLogin
  rw [token]
  simp only [Bind.bind, Except.bind]
  cases loginField m userField fun _ => true <;> rfl

/-- A cache without the text of its token. -/
def TokenCache.bare (c : TokenCache) : TokenCache := { c with current := c.current.map Token.bare }

namespace Fermioniq

/-- Settings without credentials. -/
def Settings.bare (s : Settings) : Settings :=
  { s with apiKey := "", accessId := "", accessSecret := "" }

/-- A session without credentials and without the text of its token. -/
def Session.bare (s : Session) : Session := ⟨s.settings.map Settings.bare, s.tokens.bare⟩

/-- A request that carries credentials in its body and is answered with a token. -/
def IsLogin (r : Request) : Prop := r.method = .post ∧ r.path = Settings.loginPath

/-- Requests that differ in their headers, and in their bodies if they are logins. -/
structure SameButSecrets (r q : Request) : Prop where
  method : r.method = q.method
  base : r.base = q.base
  path : r.path = q.path
  body : ¬ IsLogin r → r.body = q.body

/-- Answers that differ in the token that a login is answered with; neither token is empty. -/
inductive SameButToken (r : Request) : Outcome Json → Outcome Json → Prop where
  | same (answer : Outcome Json) : SameButToken r answer answer
  | token {m n : Json} {mine yours : String} :
      IsLogin r → (∀ key, key ≠ "jwt_token" → m.get? key = n.get? key) →
        m.get? "jwt_token" = some (.str mine) → mine ≠ "" →
          n.get? "jwt_token" = some (.str yours) → yours ≠ "" →
            SameButToken r (.ok m) (.ok n)

/-- Configurations that differ in nothing but the keys of credentials. -/
def SameButCredentials (c d : Config) : Prop :=
  ∀ key, key ∉ secretKeys → c.get? key = d.get? key

/-- How two runs may differ. -/
def kinship : Kinship Session where
  states s t := s.bare = t.bare
  requests := SameButSecrets
  answers := SameButToken
  configs := SameButCredentials

/-! ## What does not -/

namespace Session

theorem baseUrl_bare (s : Session) : s.bare.baseUrl = s.baseUrl := by
  unfold baseUrl bare
  cases s.settings <;> rfl

theorem persisted_bare (s : Session) : s.bare.persisted = s.persisted := by
  unfold persisted bare
  cases s.settings <;> rfl

theorem user?_bare (c : TokenCache) : c.bare.user? = c.user? := by
  unfold TokenCache.user? TokenCache.bare
  cases c.current <;> rfl

/-- No credential stands in the body of a submission. -/
theorem jobBody_bare (a : Settings) (user : String) (kernels : List Kernel) :
    jobBody a.bare user kernels = jobBody a user kernels := rfl

end Session

theorem not_isLogin_get (base path : String) (headers : Headers) :
    ¬ IsLogin (.get base path headers) := by
  rintro ⟨method, _⟩
  cases method

/-- All but logins are answered the same. -/
theorem SameButToken.eq {r : Request} {a b : Outcome Json} (related : SameButToken r a b)
    (noLogin : ¬ IsLogin r) : a = b := by
  cases related with
  | same => rfl
  | token login => exact absurd login noLogin

/-! ## Logins -/

open Dialogue (Twins)

/-- What two logins come to differs in the text of the token. -/
def SameLogin (mine yours : Outcome Token) : Prop := mine.map Token.bare = yours.map Token.bare

theorem sameLogin_ofLogin {r : Request} {m n : Json} (related : SameButToken r (.ok m) (.ok n))
    (now : Instant) :
    SameLogin (Token.ofLogin m "jwt_token" (some "user_id") now)
      (Token.ofLogin n "jwt_token" (some "user_id") now) := by
  cases related with
  | same => rfl
  | token _ others mine mineHas yours yoursHas =>
      have user : Token.loginField m "user_id" (fun _ => true)
          = Token.loginField n "user_id" fun _ => true := by
        unfold Token.loginField
        rw [others "user_id" (by decide)]
      unfold SameLogin
      rw [Token.ofLogin_text mine mineHas, Token.ofLogin_text yours yoursHas, user]
      cases Token.loginField n "user_id" fun _ => true <;> rfl

/-- Sessions of one kind have both been configured or neither. -/
theorem settings_of_bare {s t : Session} (kin : s.bare = t.bare) :
    (s.settings = none ∧ t.settings = none) ∨
      ∃ a b, s.settings = some a ∧ t.settings = some b ∧ a.bare = b.bare := by
  have settings : s.settings.map Settings.bare = t.settings.map Settings.bare :=
    congrArg Session.settings kin
  cases mine : s.settings with
  | none =>
      cases yours : t.settings with
      | none => exact .inl ⟨rfl, rfl⟩
      | some b => simp [mine, yours] at settings
  | some a =>
      cases yours : t.settings with
      | none => simp [mine, yours] at settings
      | some b =>
          rw [mine, yours] at settings
          exact .inr ⟨a, b, rfl, rfl, Option.some.inj settings⟩

theorem sameButSecrets_loginRequest {a b : Settings} (kin : a.bare = b.bare) :
    SameButSecrets a.loginRequest b.loginRequest where
  method := rfl
  base := by
    show a.bare.baseUrl = b.bare.baseUrl
    rw [kin]
  path := rfl
  body := fun noLogin => absurd ⟨rfl, rfl⟩ noLogin

/-- Logins are twins if they ask with related requests and are answered alike but for the token. -/
theorem twins_login_of {K : Kinship Session} (answers : ∀ r a b, K.answers r a b → SameButToken r a b)
    (requests : ∀ s t, K.states s t → (s.settings = none ∧ t.settings = none) ∨
      ∃ a b, s.settings = some a ∧ t.settings = some b ∧
        K.requests a.loginRequest b.loginRequest) :
    Twins K SameLogin Session.login Session.login := by
  refine Twins.state.bind ?_
  intro s t kin
  rcases requests s t kin with ⟨mine, yours⟩ | ⟨a, b, mine, yours, same⟩
  · rw [mine, yours]
    exact .done rfl
  · rw [mine, yours]
    refine .send same ?_
    intro answer answer' related
    have related := answers _ _ _ related
    cases answer with
    | error fault =>
        cases related
        exact .done rfl
    | ok m =>
        cases answer' with
        | error fault => cases related
        | ok n =>
            refine .clock ?_
            intro now
            exact .done (sameLogin_ofLogin related now)

theorem twins_login : Twins kinship SameLogin Session.login Session.login := by
  refine twins_login_of (fun _ _ _ related => related) ?_
  intro s t kin
  rcases settings_of_bare kin with neither | ⟨a, b, mine, yours, same⟩
  · exact .inl neither
  · exact .inr ⟨a, b, mine, yours, sameButSecrets_loginRequest same⟩

/-- Whatever has been noted before, logins of one kind are answered alike. -/
theorem record_answer (c d : TokenCache) {mine yours : Outcome Token}
    (same : SameLogin mine yours) :
    (c.record mine).1.map (fun _ => ()) = (d.record yours).1.map fun _ => () := by
  unfold SameLogin at same
  cases mine with
  | error fault =>
      cases yours with
      | ok _ => cases same
      | error fault' =>
          cases same
          rfl
  | ok token =>
      cases yours with
      | error _ => cases same
      | ok token' => rfl

/-- Caches that note logins of one kind stay of one kind. -/
theorem record_bare {c d : TokenCache} (kin : c.bare = d.bare) {mine yours : Outcome Token}
    (same : SameLogin mine yours) : (c.record mine).2.bare = (d.record yours).2.bare := by
  have attempts : c.bare.attempts = d.bare.attempts := congrArg TokenCache.attempts kin
  have generation : c.bare.generation = d.bare.generation := congrArg TokenCache.generation kin
  have current : c.current.map Token.bare = d.current.map Token.bare :=
    congrArg TokenCache.current kin
  simp only [TokenCache.bare] at attempts generation
  unfold SameLogin at same
  cases mine with
  | error fault =>
      cases yours with
      | ok _ => cases same
      | error fault' =>
          cases same
          simp [TokenCache.record, TokenCache.bare, attempts, generation, current]
  | ok token =>
      cases yours with
      | error _ => cases same
      | ok token' =>
          have bare : token.bare = token'.bare := Except.ok.inj same
          simp [TokenCache.record, TokenCache.bare, attempts, generation, bare]

theorem twins_refresh : Twins kinship Eq Session.refresh Session.refresh := by
  refine twins_login.bind ?_
  intro mine yours same
  refine .change ?_ ?_
  · intro s t kin
    have tokens := record_bare (congrArg Session.tokens kin) same
    have settings : s.settings.map Settings.bare = t.settings.map Settings.bare :=
      congrArg Session.settings kin
    show Session.bare _ = Session.bare _
    simp only [Session.bare, Session.record, settings, tokens]
  · intro s t kin
    exact .done (record_answer s.tokens t.tokens same)

/-! ## Configurations -/

/-- Where each of the settings of a configuration comes from. -/
structure Settings.Sourced (env : Environment) (c : Config) (a : Settings) : Prop where
  accessId : c.resolve env "access_token_id" accessIdVariable = .ok a.accessId
  accessSecret : c.resolve env "access_token_secret" accessSecretVariable = .ok a.accessSecret
  bondDim : bondDimOf c = .ok a.bondDim
  baseUrl : a.baseUrl = Text.trimEndOf '/' (Config.valueOr c "base_url" defaultBaseUrl)
  apiKey : a.apiKey = (Config.lookup c env "api_key" apiKeyVariable).getD ""
  userAgent : a.userAgent = ((c.get? "user_agent").filter (· ≠ "")).getD defaultUserAgent
  remoteConfig : a.remoteConfig = c.get? "remote_config"
  noiseModel : a.noiseModel = c.get? "noise_model"
  project : a.project = c.get? "project_id"
  persisted : a.persisted = (Config.without c secretKeys).insert "base_url" a.baseUrl

/-- The inversion of a configuration that is valid. -/
theorem Settings.sourced_of_ofConfig {env : Environment} {c : Config} {a : Settings}
    (valid : ofConfig env c = .ok a) : Sourced env c a := by
  unfold ofConfig at valid
  obtain ⟨_, accessId, valid₁⟩ := of_bind_ok valid
  obtain ⟨_, accessSecret, valid₂⟩ := of_bind_ok valid₁
  obtain ⟨_, bondDim, valid₃⟩ := of_bind_ok valid₂
  cases valid₃
  exact ⟨accessId, accessSecret, bondDim, rfl, rfl, rfl, rfl, rfl, rfl, rfl⟩

namespace SameButCredentials

variable {c d : Config}

theorem without (same : SameButCredentials c d) :
    Config.without c secretKeys = Config.without d secretKeys := by
  apply Dict.ext_get?
  intro key
  unfold Config.without
  rw [Dict.get?_filterKeys, Dict.get?_filterKeys]
  by_cases secret : key ∈ secretKeys
  · simp [secret]
  · simp [secret, same key secret]

/-- Overlaying the same configuration with both changes nothing about that. -/
theorem overlay (same : SameButCredentials c d) (kept : Config) :
    SameButCredentials (kept.merge c) (kept.merge d) := by
  intro key noSecret
  rw [Dict.get?_merge, Dict.get?_merge, same key noSecret]

theorem bondDimOf (same : SameButCredentials c d) :
    Settings.bondDimOf c = Settings.bondDimOf d := by
  unfold Settings.bondDimOf
  rw [same "bond_dim" (by decide)]

/-- Both give the same settings but for the credentials, wherever those come from. -/
theorem bare_ofConfig (same : SameButCredentials c d) {env env' : Environment} {a b : Settings}
    (mine : Settings.ofConfig env c = .ok a) (yours : Settings.ofConfig env' d = .ok b) :
    a.bare = b.bare := by
  have left := Settings.sourced_of_ofConfig mine
  have right := Settings.sourced_of_ofConfig yours
  have bondDim : a.bondDim = b.bondDim :=
    Except.ok.inj (left.bondDim.symm.trans (same.bondDimOf.trans right.bondDim))
  have baseUrl : a.baseUrl = b.baseUrl := by
    rw [left.baseUrl, right.baseUrl]
    unfold Config.valueOr
    rw [same "base_url" (by decide)]
  -- No field that is left reads the environment or a secret key.
  simp only [Settings.bare, baseUrl, bondDim, left.userAgent, right.userAgent, left.remoteConfig,
    right.remoteConfig, left.noiseModel, right.noiseModel, left.project, right.project,
    left.persisted, right.persisted, same.without, same "user_agent" (by decide),
    same "remote_config" (by decide), same "noise_model" (by decide), same "project_id" (by decide)]

end SameButCredentials

/-- Taking settings into use that differ in the credentials keeps sessions of one kind. -/
theorem configure_bare {a b : Settings} (settings : a.bare = b.bare) {s t : Session}
    (kin : s.bare = t.bare) : (s.configure a).bare = (t.configure b).bare := by
  have tokens : s.tokens.bare.clear = t.tokens.bare.clear :=
    congrArg (fun s => s.tokens.clear) kin
  show (⟨some a.bare, s.tokens.bare.clear⟩ : Session) = ⟨some b.bare, t.tokens.bare.clear⟩
  rw [settings, tokens]

theorem connect_twins {c d : Config} (same : SameButCredentials c d) (env env' : Environment) :
    (∃ fault, Session.connect env c = .done (.error fault)) ∨
      (∃ fault, Session.connect env' d = .done (.error fault)) ∨
        Twins kinship Eq (Session.connect env c) (Session.connect env' d) := by
  unfold Session.connect
  cases mine : Settings.ofConfig env c with
  | error fault => exact .inl ⟨fault, rfl⟩
  | ok a =>
      cases yours : Settings.ofConfig env' d with
      | error fault => exact .inr (.inl ⟨fault, rfl⟩)
      | ok b =>
          refine .inr (.inr (.change ?_ ?_))
          · intro s t kin
            exact configure_bare (same.bare_ofConfig mine yours) kin
          · intro s t kin
            exact twins_refresh

/-- Submissions that a session makes of the same kernels are refused alike, or differ in the headers
only. -/
theorem payload_kin {s t : Session} (kin : s.bare = t.bare) (kernels : List Kernel) :
    (∃ fault, s.payload kernels = .error fault ∧ t.payload kernels = .error fault) ∨
      ∃ p q, s.payload kernels = .ok p ∧ t.payload kernels = .ok q ∧
        p.path = Session.jobsPath ∧ q.path = Session.jobsPath ∧ p.body = q.body := by
  have users : s.tokens.user? = t.tokens.user? := by
    rw [← Session.user?_bare s.tokens, ← Session.user?_bare t.tokens]
    exact congrArg (fun s => s.tokens.user?) kin
  unfold Session.payload
  rcases settings_of_bare kin with ⟨mine, yours⟩ | ⟨a, b, mine, yours, same⟩
  · rw [mine, yours]
    exact .inl ⟨_, rfl, rfl⟩
  · rw [mine, yours, users]
    cases t.tokens.user? with
    | none => exact .inl ⟨_, rfl, rfl⟩
    | some user =>
        refine .inr ⟨_, _, rfl, rfl, rfl, rfl, ?_⟩
        show Session.jobBody a user kernels = Session.jobBody b user kernels
        rw [← Session.jobBody_bare a, same, Session.jobBody_bare b]

theorem baseUrl_kin {s t : Session} (kin : s.bare = t.bare) : s.baseUrl = t.baseUrl := by
  rw [← s.baseUrl_bare, ← t.baseUrl_bare, kin]

theorem persisted_kin {s t : Session} (kin : s.bare = t.bare) : s.persisted = t.persisted := by
  rw [← s.persisted_bare, ← t.persisted_bare, kin]

/-- A submission is no login. -/
theorem not_isLogin_submission {base path : String} (jobs : path = Session.jobsPath)
    (headers : Headers) (body : Json) : ¬ IsLogin (.post base path headers body) := by
  rintro ⟨_, login⟩
  have same : Session.jobsPath = Settings.loginPath := jobs.symm.trans login
  exact absurd same (by decide)

/-- Nothing of a session shows but what does not depend on credentials and tokens. -/
theorem discreet : backend.Discreet kinship where
  self _ := rfl
  name _ _ _ := rfl
  persisted _ _ kin := persisted_kin kin
  jobOf _ _ _ := rfl
  statusPath _ _ _ := rfl
  resultsPath _ _ _ := rfl
  isDone _ _ _ := rfl
  interval _ _ _ := rfl
  results _ _ _ _ kin := ⟨rfl, kin⟩
  gets s t path kin := by
    refine ⟨⟨rfl, baseUrl_kin kin, rfl, fun _ => rfl⟩, ?_⟩
    intro a c related
    exact related.eq (not_isLogin_get _ _ _)
  posts s t kernels kin := by
    rcases payload_kin kin kernels with refused | ⟨p, q, mine, yours, path, path', body⟩
    · exact .inl refused
    · have requests : SameButSecrets (.post s.baseUrl p.path p.headers p.body)
          (.post t.baseUrl q.path q.headers q.body) :=
        ⟨rfl, baseUrl_kin kin, path.trans path'.symm, fun _ => body⟩
      refine .inr ⟨p, q, mine, yours, requests, ?_⟩
      intro a c related
      exact related.eq (not_isLogin_submission path _ _)
  refresh := twins_refresh
  connect env env' _ _ same := connect_twins same env env'
  overlay kept _ _ same := same.overlay kept

/-! ## Records -/

/-- Take two plans for the same kernels, made at the same times, whose configurations and overrides
differ in nothing but credentials; the environments may differ in anything.  If the backend is set
up in both whenever that is asked for, and the same answers come in the same order up to the tokens
that logins are answered with, then the records of the handles after the submission and after every
move are the same. -/
theorem carryOut_records {registry : Registry Session} {p q : Plan} (alike : p.Alike kinship q)
    {mine yours : Nat → Outcome Json} {s : Session} {handles handles' : List Handle}
    {last last' : Line Session Nat}
    (went : backend.carryOut registry (.inOrder mine) p ⟨s, 0, []⟩ = .ok (handles, last))
    (went' : backend.carryOut registry (.inOrder yours) q ⟨s, 0, []⟩ = .ok (handles', last'))
    (answered : ∀ i r, last.sent[i]? = some r → SameButToken r (mine i) (yours i)) :
    handles.map Handle.toJson = handles'.map Handle.toJson := by
  obtain ⟨same, _⟩ := discreet.carryOut alike went went' answered
  rw [same]

def accessToken (id secret : String) : Config :=
  Dict.ofList [("access_token_id", id), ("access_token_secret", secret)]

theorem sameButCredentials_accessToken (id id' secret secret' : String) :
    SameButCredentials (accessToken id secret) (accessToken id' secret') := by
  intro key noSecret
  have noId : "access_token_id" ≠ key := by
    rintro rfl
    exact noSecret (by decide)
  have noPart : "access_token_secret" ≠ key := by
    rintro rfl
    exact noSecret (by decide)
  show ((Dict.empty.insert _ _).insert _ _ : Config).get? key
    = ((Dict.empty.insert _ _).insert _ _ : Config).get? key
  simp only [Dict.get?_insert, if_neg noId, if_neg noPart]

/-- A poll that needs a fresh token, a resumption by another process and a wait for one check. -/
def relayPlan (id secret : String) : Plan where
  backend := backendName
  env := .empty
  config := accessToken id secret
  kernels := [⟨"bell", "OPENQASM 2.0;"⟩]
  connectAt := default
  submitAt := default
  moves := [(default, .poll), (default, .resume .empty (accessToken id secret)), (default, .wait 1)]

/-- The answers to that plan; all that are not listed are answers to logins. -/
def relayAnswers (token : String) : Nat → Outcome Json
  | 1 => .ok (.obj [("id", .str "job-1")])
  | 2 => .error (.transport (some 401) "token expired")
  | 4 => .ok (.obj [("status", .str "running")])
  | 6 => .ok (.obj [("status", .str "finished"), ("status_code", .int 0)])
  | 7 => .ok (.obj [("emulator_output",
      .arr [.obj [("output", .obj [("samples", .obj [("00", .int 6), ("11", .int 4)])])]])])
  | _ => .ok (.obj [("jwt_token", .str token), ("user_id", .str "user-1")])

theorem alike_relayPlan (id id' secret secret' : String) :
    (relayPlan id secret).Alike kinship (relayPlan id' secret') where
  backend := rfl
  config := sameButCredentials_accessToken id id' secret secret'
  kernels := rfl
  connectAt := rfl
  submitAt := rfl
  moves := by
    have credentials := sameButCredentials_accessToken id id' secret secret'
    exact .cons ⟨rfl, .poll⟩ (.cons ⟨rfl, .resume _ _ credentials⟩ (.cons ⟨rfl, .wait 1⟩ .nil))

def relayCalls : List (Method × String) :=
  [(.post, Settings.loginPath), (.post, Session.jobsPath), (.get, "/api/jobs/job-1"),
    (.post, Settings.loginPath), (.get, "/api/jobs/job-1"), (.post, Settings.loginPath),
    (.get, "/api/jobs/job-1"), (.get, "/api/jobs/job-1/results")]

/-- With those requests only logins are answered with tokens. -/
theorem answered_relayAnswers {mine yours : String} (first : mine ≠ "") (second : yours ≠ "")
    {sent : List Request} (calls : sent.map (fun r => (r.method, r.path)) = relayCalls) :
    ∀ i r, sent[i]? = some r → SameButToken r (relayAnswers mine i) (relayAnswers yours i) := by
  intro i r here
  have call : some (r.method, r.path) = relayCalls[i]? := by
    rw [← calls, List.getElem?_map, here]
    rfl
  have token : IsLogin r → SameButToken r
      (.ok (.obj [("jwt_token", .str mine), ("user_id", .str "user-1")]))
      (.ok (.obj [("jwt_token", .str yours), ("user_id", .str "user-1")])) := by
    intro login
    refine .token login ?_ rfl first rfl second
    intro key other
    simp [Json.get?, Entries.find?, Ne.symm other]
  rcases i with _ | _ | _ | _ | _ | _ | _ | _ | i
  · exact token (Prod.mk.inj (Option.some.inj call))
  · exact .same _
  · exact .same _
  · exact token (Prod.mk.inj (Option.some.inj call))
  · exact .same _
  · exact token (Prod.mk.inj (Option.some.inj call))
  · exact .same _
  · exact .same _
  -- No further request is sent.
  · cases call

/-- Two processes relay a job to two others; each has credentials and tokens of its own. -/
theorem carryOut_records_relayPlan :
    ∃ handles last handles' last',
      backend.carryOut (Registry.register .empty backendName .fresh)
          (.inOrder (relayAnswers "jwt-1")) (relayPlan "id-1" "secret-1") ⟨.fresh, 0, []⟩
        = .ok (handles, last) ∧
      backend.carryOut (Registry.register .empty backendName .fresh)
          (.inOrder (relayAnswers "jwt-2")) (relayPlan "id-2" "secret-2") ⟨.fresh, 0, []⟩
        = .ok (handles', last') ∧
      (∀ i r, last.sent[i]? = some r →
        SameButToken r (relayAnswers "jwt-1" i) (relayAnswers "jwt-2" i)) ∧
      handles.map Handle.phase = [.polling, .polling, .polling, .done] ∧
      handles.map Handle.toJson = handles'.map Handle.toJson := by
  have alike := alike_relayPlan "id-1" "id-2" "secret-1" "secret-2"
  obtain ⟨handles, last, went, calls, phases⟩ : ∃ handles last,
      backend.carryOut (Registry.register .empty backendName .fresh)
          (.inOrder (relayAnswers "jwt-1")) (relayPlan "id-1" "secret-1") ⟨.fresh, 0, []⟩
        = .ok (handles, last) ∧
      last.sent.map (fun r => (r.method, r.path)) = relayCalls ∧
      handles.map Handle.phase = [.polling, .polling, .polling, .done] := ⟨_, _, rfl, rfl, rfl⟩
  obtain ⟨handles', last', went'⟩ : ∃ handles last,
      backend.carryOut (Registry.register .empty backendName .fresh)
          (.inOrder (relayAnswers "jwt-2")) (relayPlan "id-2" "secret-2") ⟨.fresh, 0, []⟩
        = .ok (handles, last) := ⟨_, _, rfl⟩
  have first : "jwt-1" ≠ "" := by decide
  have second : "jwt-2" ≠ "" := by decide
  have answered := answered_relayAnswers first second calls
  refine ⟨handles, last, handles', last', went, went', answered, phases, ?_⟩
  exact carryOut_records alike went went' answered

end Fermioniq
end QuantumJobs

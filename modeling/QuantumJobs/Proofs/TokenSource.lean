import QuantumJobs.Proofs.DictLookup
import QuantumJobs.Proofs.Exchanges
import QuantumJobs.Proofs.ResumedSession
import QuantumJobs.Proofs.Run

/-!
# TokenSource — where the bearer token of a session comes from

One session is used again and again: configurations are taken into use, tokens are renewed, and
headers and submissions are asked for.  Any of these may fail, and every dialogue may have a network
of its own.  From the past of such a run alone it can be told which settings are in force and which
token stands: that of the latest login that succeeded under those settings.  The session shows that
token and no other.  So no token outlives the settings that it was issued under, and none is ever
shown to a login.
-/

namespace QuantumJobs
namespace Fermioniq
namespace Session

/-! ## Uses of a session -/

/-- What may be asked of a session. -/
inductive Use
  | connect (env : Environment) (c : Config)
  | refresh
  | headers
  | payload (kernels : List Kernel)

inductive Answer
  /-- A dialogue came to its end after these exchanges. -/
  | ended (exchanges : List Exchange) (outcome : Outcome Unit)
  | headers (h : Headers)
  | payload (p : Outcome Payload)

namespace Answer

def exchanges : Answer → List Exchange
  | .ended exchanges _ => exchanges
  | _ => []

/-- The headers that an answer hands out. -/
def headers? : Answer → Option Headers
  | .headers h => some h
  | .payload (.ok p) => some p.headers
  | _ => none

end Answer

/-- A session is put to a use, on any network and at any time. -/
inductive Moves (s : Session) : Use → Option Answer → Session → Prop where
  | connects {τ : Type} (env : Environment) (c : Config) (net : Network τ) (now : Instant)
      (wire : τ) :
      Moves s (.connect env c)
        (some (.ended ((connect env c).exchanges net now ⟨s, wire, []⟩)
          ((connect env c).run net now ⟨s, wire, []⟩).1))
        ((connect env c).run net now ⟨s, wire, []⟩).2.state
  | refreshes {τ : Type} (net : Network τ) (now : Instant) (wire : τ) :
      Moves s .refresh
        (some (.ended (Session.refresh.exchanges net now ⟨s, wire, []⟩)
          (Session.refresh.run net now ⟨s, wire, []⟩).1))
        (Session.refresh.run net now ⟨s, wire, []⟩).2.state
  | headers : Moves s .headers (some (.headers s.headers)) s
  | payload (kernels : List Kernel) :
      Moves s (.payload kernels) (some (.payload (s.payload kernels))) s

/-! ## What a past says -/

/-- The settings that a use brings into force: those of a configuration that is valid. -/
def Use.settings? : Use → Option Settings
  | .connect env c => (Settings.ofConfig env c).toOption
  | _ => none

/-- The settings that have been brought into force last. -/
def inForce : Past Use Answer → Option Settings
  | [] => none
  | (use, _) :: past => use.settings?.or (inForce past)

/-- The request is a login at the base URL and with the credentials of the settings. -/
structure LoginWith (a : Settings) (r : Request) : Prop where
  method : r.method = .post
  base : r.base = a.baseUrl
  path : r.path = Settings.loginPath
  body : r.body = .obj
    [("access_token_id", .str a.accessId), ("access_token_secret", .str a.accessSecret)]

/-- A login was answered with a bearer token and a user. -/
def Grants (answer : Outcome Json) (text user : String) : Prop :=
  ∃ m, answer = .ok m ∧ m.get? "jwt_token" = some (.str text) ∧ text ≠ "" ∧
    m.get? "user_id" = some (.str user)

/-- The latest login that succeeded gave the token to the user.  It was made under the settings in
force, and no settings have been brought into force since. -/
inductive Stands (text user : String) : Past Use Answer → Prop where
  | granted {use : Use} {answer : Answer} {past : Past Use Answer} {a : Settings} {x : Exchange} :
      inForce ((use, some answer) :: past) = some a → x ∈ answer.exchanges →
        LoginWith a x.request → Grants x.answer text user →
          Stands text user ((use, some answer) :: past)
  | later {use : Use} {answer : Answer} {past : Past Use Answer} :
      use.settings? = none →
        (∀ x ∈ answer.exchanges, ∀ text' user', ¬ Grants x.answer text' user') →
          Stands text user past → Stands text user ((use, some answer) :: past)

/-- Headers with a value for authorization, under any spelling of that name. -/
def Carries (h : Headers) (value : String) : Prop :=
  ∃ name, Text.asciiLower name = "authorization" ∧ h.get? name = some value

/-! ## Logins -/

theorem loginWith_loginRequest (a : Settings) : LoginWith a a.loginRequest := ⟨rfl, rfl, rfl, rfl⟩

theorem loginField_eq_ok {response : Json} {name text : String} {accept : String → Bool} :
    Token.loginField response name accept = .ok text ↔
      response.get? name = some (.str text) ∧ accept text = true := by
  unfold Token.loginField
  constructor
  · intro read
    split at read
    · rename_i s found
      cases read
      obtain ⟨found, accepted⟩ := Option.filter_eq_some_iff.1 found
      obtain ⟨v, field, text⟩ := Option.bind_eq_some_iff.1 found
      cases v with
      | str s =>
          cases text
          exact ⟨field, accepted⟩
      | _ => cases text
    · cases read
  · rintro ⟨field, accepted⟩
    have found : ((response.get? name).bind Json.asString?).filter accept = some text := by
      rw [field]
      exact Option.filter_eq_some_iff.2 ⟨rfl, accepted⟩
    rw [found]

/-- What a session takes the answer to a login for. -/
def tokenOf (now : Instant) (answer : Outcome Json) : Outcome Token := do
  Token.ofLogin (← answer) "jwt_token" (some "user_id") now

@[simp]
theorem tokenOf_error (now : Instant) (fault : Fault) : tokenOf now (.error fault) = .error fault :=
  rfl

@[simp]
theorem tokenOf_ok (now : Instant) (m : Json) :
    tokenOf now (.ok m) = Token.ofLogin m "jwt_token" (some "user_id") now := rfl

/-- A login succeeds exactly if its answer grants a token. -/
theorem tokenOf_eq_ok {answer : Outcome Json} {now : Instant} {t : Token} :
    tokenOf now answer = .ok t ↔
      ∃ user, t = ⟨t.text, some user, now⟩ ∧ Grants answer t.text user := by
  unfold tokenOf Token.ofLogin
  constructor
  · intro read
    obtain ⟨m, answered, read⟩ := of_bind_ok read
    obtain ⟨text, hasText, read⟩ := of_bind_ok read
    obtain ⟨user, hasUser, read⟩ := of_bind_ok read
    cases read
    obtain ⟨hasText, notEmpty⟩ := loginField_eq_ok.1 hasText
    exact ⟨user, rfl, m, answered, hasText, by simpa using notEmpty, (loginField_eq_ok.1 hasUser).1⟩
  · rintro ⟨user, whole, m, rfl, hasText, notEmpty, hasUser⟩
    have first : Token.loginField m "jwt_token" (· ≠ "") = .ok t.text :=
      loginField_eq_ok.2 ⟨hasText, by simpa using notEmpty⟩
    have second : Token.loginField m "user_id" (fun _ => true) = .ok user :=
      loginField_eq_ok.2 ⟨hasUser, rfl⟩
    rw [whole]
    simp only [bind, Except.bind, first, second]

/-! ## Renewing the token -/

section Refresh

variable {τ : Type} (net : Network τ) (now : Instant) {line : Line Session τ}

theorem exchanges_refresh_of_none (settings : line.state.settings = none) :
    refresh.exchanges net now line = [] := by
  simp [refresh, login, settings, Dialogue.exchanges]

theorem current_refresh_of_none (settings : line.state.settings = none) :
    (refresh.run net now line).2.state.tokens.current = line.state.tokens.current := by
  simp [refresh, login, settings, Dialogue.run, record, TokenCache.record]

variable {a : Settings}

/-- A session with settings sends one login. -/
theorem exchanges_refresh (settings : line.state.settings = some a) :
    refresh.exchanges net now line
      = [⟨a.loginRequest, (net.answer a.loginRequest line.wire).1⟩] := by
  cases answered : (net.answer a.loginRequest line.wire).1 <;>
    simp [refresh, login, settings, answered, Dialogue.exchanges]

/-- The token that a login gives takes the place of the one before; a login that fails leaves it. -/
theorem current_refresh (settings : line.state.settings = some a) :
    (refresh.run net now line).2.state.tokens.current
      = match tokenOf now (net.answer a.loginRequest line.wire).1 with
        | .ok t => some t
        | .error _ => line.state.tokens.current := by
  cases answered : (net.answer a.loginRequest line.wire).1 with
  | error fault =>
      simp [refresh, login, settings, answered, Dialogue.run, record, TokenCache.record]
  | ok m =>
      cases read : Token.ofLogin m "jwt_token" (some "user_id") now <;>
        simp [refresh, login, settings, answered, read, Dialogue.run, record, TokenCache.record]

end Refresh

/-- What a session may make of a login: which exchanges there were, and which token it then has. -/
inductive Renewed (before after : Session) : List Exchange → Prop where
  | unasked : after.settings = before.settings → after.tokens.current = before.tokens.current →
      Renewed before after []
  | granted {a : Settings} {x : Exchange} {t : Token} {user : String} :
      before.settings = some a → after.settings = some a → x.request = a.loginRequest →
        Grants x.answer t.text user → t.user = some user → after.tokens.current = some t →
          Renewed before after [x]
  | refused {a : Settings} {x : Exchange} :
      before.settings = some a → after.settings = some a → x.request = a.loginRequest →
        (∀ text user, ¬ Grants x.answer text user) →
          after.tokens.current = before.tokens.current → Renewed before after [x]

theorem renewed_refresh {τ : Type} (net : Network τ) (now : Instant) (line : Line Session τ) :
    Renewed line.state (refresh.run net now line).2.state (refresh.exchanges net now line) := by
  have after : (refresh.run net now line).2.state.settings = line.state.settings :=
    settings_run_refresh line
  cases settings : line.state.settings with
  | none =>
      rw [exchanges_refresh_of_none net now settings]
      exact .unasked after (current_refresh_of_none net now settings)
  | some a =>
      have current := current_refresh net now settings
      rw [settings] at after
      rw [exchanges_refresh net now settings]
      cases read : tokenOf now (net.answer a.loginRequest line.wire).1 with
      | ok t =>
          rw [read] at current
          obtain ⟨user, whole, grants⟩ := tokenOf_eq_ok.1 read
          exact .granted settings after rfl grants (congrArg Token.user whole) current
      | error fault =>
          rw [read] at current
          refine .refused settings after rfl ?_ current
          intro text user grants
          have granted : tokenOf now (net.answer a.loginRequest line.wire).1
              = .ok ⟨text, some user, now⟩ := tokenOf_eq_ok.2 ⟨user, rfl, grants⟩
          rw [read] at granted
          cases granted

/-! ## Every move -/

/-- A session with the settings that a use brings into force, before anything is sent. -/
def Use.prepare (use : Use) (s : Session) : Session :=
  match use.settings? with
  | some a => s.configure a
  | none => s

/-- Whatever a session is used for, settings are brought into force first, and at most a login
follows. -/
theorem Moves.renewed {s s' : Session} {use : Use} {reply : Option Answer}
    (move : s.Moves use reply s') :
    ∃ answer, reply = some answer ∧ Renewed (use.prepare s) s' answer.exchanges := by
  cases move with
  | connects env c net now wire =>
      refine ⟨_, rfl, ?_⟩
      cases valid : Settings.ofConfig env c with
      | error fault =>
          have same : (Use.connect env c).prepare s = s := by
            simp [Use.prepare, Use.settings?, valid, Except.toOption]
          have refused : connect env c = .done (.error fault) := by
            unfold connect
            rw [valid]
          rw [same, refused]
          exact .unasked rfl rfl
      | ok a =>
          -- The token is dropped before the login is tried, so a failed login leaves none.
          have configured : (Use.connect env c).prepare s = s.configure a := by
            simp [Use.prepare, Use.settings?, valid, Except.toOption]
          have login : connect env c = (do Dialogue.modify (configure a); refresh) := by
            unfold connect
            rw [valid]
          rw [configured, login]
          exact renewed_refresh net now ⟨s.configure a, wire, []⟩
  | refreshes net now wire => exact ⟨_, rfl, renewed_refresh net now ⟨s, wire, []⟩⟩
  | headers => exact ⟨_, rfl, .unasked rfl rfl⟩
  | payload kernels => exact ⟨_, rfl, .unasked rfl rfl⟩

/-! ## What a session shows -/

variable {text user : String} {past : Past Use Answer} {s s' : Session}

theorem stands_cons_iff {use : Use} {answer : Answer} :
    Stands text user ((use, some answer) :: past) ↔
      (∃ a, ∃ x ∈ answer.exchanges, inForce ((use, some answer) :: past) = some a ∧
        LoginWith a x.request ∧ Grants x.answer text user) ∨
      (use.settings? = none ∧ (∀ x ∈ answer.exchanges, ∀ t u, ¬ Grants x.answer t u) ∧
        Stands text user past) := by
  constructor
  · intro stands
    cases stands with
    | granted force here login grants => exact .inl ⟨_, _, here, force, login, grants⟩
    | later other refused before => exact .inr ⟨other, refused, before⟩
  · rintro (⟨a, x, here, force, login, grants⟩ | ⟨other, refused, before⟩)
    · exact .granted force here login grants
    · exact .later other refused before

theorem Grants.unique {answer : Outcome Json} {text' user' : String}
    (grants : Grants answer text user) (grants' : Grants answer text' user') :
    text = text' ∧ user = user' := by
  obtain ⟨m, rfl, hasText, _, hasUser⟩ := grants
  obtain ⟨m', same, hasText', _, hasUser'⟩ := grants'
  cases same
  rw [hasText] at hasText'
  rw [hasUser] at hasUser'
  cases hasText'
  cases hasUser'
  exact ⟨rfl, rfl⟩

/-- A session holds a token of the given text that was issued to the given user. -/
def Holds (s : Session) (text user : String) : Prop :=
  ∃ t, s.tokens.current = some t ∧ t.text = text ∧ t.user = some user

/-- The session has what its past says. -/
structure Agrees (past : Past Use Answer) (s : Session) : Prop where
  settings : s.settings = inForce past
  token : ∀ text user, s.Holds text user ↔ Stands text user past
  /-- Every token is usable: it has a text and a user, and there are settings to send it to. -/
  usable : ∀ t, s.tokens.current = some t →
    t.text ≠ "" ∧ t.user.isSome = true ∧ s.settings.isSome = true

theorem inForce_cons (use : Use) (reply : Option Answer) (past : Past Use Answer) :
    inForce ((use, reply) :: past) = use.settings?.or (inForce past) := rfl

theorem agrees_fresh : Agrees [] fresh where
  settings := rfl
  token text user := by
    constructor
    · rintro ⟨t, held, _⟩
      cases held
    · intro stands
      cases stands
  usable := by
    intro t held
    cases held

/-- Bringing settings into force drops the token; every other use finds it as it was. -/
theorem Agrees.prepare (agrees : Agrees past s) (use : Use) (reply : Option Answer) :
    (use.prepare s).settings = inForce ((use, reply) :: past) ∧
      (∀ text user, (use.prepare s).Holds text user ↔
        use.settings? = none ∧ Stands text user past) ∧
      ∀ t, (use.prepare s).tokens.current = some t →
        t.text ≠ "" ∧ t.user.isSome = true ∧ (use.prepare s).settings.isSome = true := by
  rw [inForce_cons]
  unfold Use.prepare
  cases use.settings? with
  | none => exact ⟨agrees.settings, fun text user => by simp [agrees.token], agrees.usable⟩
  | some a =>
      refine ⟨rfl, ?_, ?_⟩
      · intro text user
        constructor
        · rintro ⟨t, held, _⟩
          cases held
        · rintro ⟨never, _⟩
          cases never
      · intro t held
        cases held

theorem Agrees.step (agrees : Agrees past s) {use : Use} {reply : Option Answer}
    (move : s.Moves use reply s') : Agrees ((use, reply) :: past) s' := by
  obtain ⟨answer, rfl, renewed⟩ := move.renewed
  obtain ⟨settings, token, usable⟩ := agrees.prepare use (some answer)
  generalize use.prepare s = before at renewed settings token usable
  generalize listed : answer.exchanges = exchanges at renewed
  cases renewed with
  | unasked same current =>
      -- No login was tried: what stood stands, unless other settings have come into force.
      refine ⟨same.trans settings, ?_, ?_⟩
      · intro text user
        rw [stands_cons_iff, listed]
        simp [Holds, current, ← token]
      · rw [current, same]
        exact usable
  | @granted a x t given force after asked grants whose current =>
      -- The login was made under the settings that are in force, so its token is the one that stands.
      have login : LoginWith a x.request := by
        rw [asked]
        exact loginWith_loginRequest a
      refine ⟨after.trans (force.symm.trans settings), ?_, ?_⟩
      · intro text user
        rw [stands_cons_iff, listed]
        constructor
        · rintro ⟨t', held, rfl, same⟩
          rw [current] at held
          cases held
          rw [whose] at same
          cases same
          exact .inl ⟨a, x, List.mem_singleton_self x, settings.symm.trans force, login, grants⟩
        · rintro (⟨_, y, here, _, _, grants'⟩ | ⟨_, refused, _⟩)
          · obtain rfl := List.mem_singleton.1 here
            obtain ⟨rfl, rfl⟩ := grants.unique grants'
            exact ⟨t, current, rfl, whose⟩
          · exact absurd grants (refused x (List.mem_singleton_self x) _ _)
      · intro t' held
        rw [current] at held
        cases held
        obtain ⟨_, _, _, notEmpty, _⟩ := grants
        exact ⟨notEmpty, by rw [whose]; rfl, by rw [after]; rfl⟩
  | @refused a x force after _ refused current =>
      -- A login that gives nothing leaves the token that was there, if the settings had left it.
      refine ⟨after.trans (force.symm.trans settings), ?_, ?_⟩
      · intro text user
        have same : s'.Holds text user ↔ before.Holds text user := by
          unfold Holds
          rw [current]
        rw [stands_cons_iff, listed, same, token]
        simp [refused]
      · rw [current, after, ← force]
        exact usable

/-- After every run a session has what its past says. -/
theorem agrees_of_run (run : Run Moves fresh past s) : Agrees past s :=
  run.invariant agrees_fresh fun _ _ _ _ _ agrees move => agrees.step move

/-! ## Headers -/

/-- Settings alone bring no value for authorization. -/
theorem not_carries_settings (a : Settings) (value : String) : ¬ Carries a.headers value := by
  rintro ⟨name, spelled, found⟩
  have other : ∀ fixed, Text.asciiLower fixed ≠ "authorization" → fixed ≠ name := by
    rintro fixed differs rfl
    exact differs spelled
  have content : "Content-Type" ≠ name := other _ (by decide)
  have agent : "User-Agent" ≠ name := other _ (by decide)
  have key : "x-functions-key" ≠ name := other _ (by decide)
  have common : (Dict.ofList [("Content-Type", "application/json"), ("User-Agent", a.userAgent)]
      : Headers).get? name = none := by
    show ((Dict.empty.insert _ _).insert _ _ : Headers).get? name = none
    rw [Dict.get?_insert, Dict.get?_insert, if_neg agent, if_neg content]
    rfl
  unfold Settings.headers at found
  by_cases keyless : a.apiKey = ""
  · rw [if_pos keyless, common] at found
    cases found
  · rw [if_neg keyless, Dict.get?_insert, if_neg key, common] at found
    cases found

/-- A login shows no token. -/
theorem not_carries_loginRequest (a : Settings) (value : String) :
    ¬ Carries a.loginRequest.headers value :=
  not_carries_settings a value

/-- The headers of settings with an authorization carry that and nothing else. -/
theorem carries_insert_iff (a : Settings) {given value : String} :
    Carries (a.headers.insert "Authorization" given) value ↔ value = given := by
  constructor
  · rintro ⟨name, spelled, found⟩
    rw [Dict.get?_insert] at found
    split at found
    · exact (Option.some.inj found).symm
    · exact absurd ⟨name, spelled, found⟩ (not_carries_settings a value)
  · rintro rfl
    refine ⟨"Authorization", by decide, ?_⟩
    rw [Dict.get?_insert, if_pos rfl]

/-- The headers carry the token that the session holds, and nothing else for authorization. -/
theorem carries_headers_iff (agrees : Agrees past s) (value : String) :
    Carries s.headers value ↔ ∃ text user, s.Holds text user ∧ value = "Bearer " ++ text := by
  unfold headers Holds
  cases held : s.tokens.current with
  | none =>
      have noText : s.tokens.text? = none := by simp [TokenCache.text?, held]
      have bare : ¬ ∃ text user, (∃ t : Token, none = some t ∧ t.text = text ∧ t.user = some user) ∧
          value = "Bearer " ++ text := by
        rintro ⟨_, _, ⟨_, never, _⟩, _⟩
        cases never
      rw [noText, iff_false_intro bare, iff_false]
      cases s.settings with
      | none =>
          rintro ⟨_, _, found⟩
          cases found
      | some a => exact not_carries_settings a value
  | some t =>
      obtain ⟨notEmpty, hasUser, hasSettings⟩ := agrees.usable t held
      obtain ⟨a, settings⟩ := Option.isSome_iff_exists.1 hasSettings
      obtain ⟨user, whose⟩ := Option.isSome_iff_exists.1 hasUser
      have text : s.tokens.text?.filter (· ≠ "") = some t.text := by
        simp [TokenCache.text?, held, notEmpty]
      simp only [settings, text]
      rw [carries_insert_iff]
      constructor
      · intro same
        exact ⟨t.text, user, ⟨t, rfl, rfl, whose⟩, same⟩
      · rintro ⟨_, _, ⟨_, same, rfl, _⟩, rfl⟩
        cases same
        rfl

/-- All headers that a session hands out are its current ones. -/
theorem Moves.headers_of {use : Use} {answer : Answer} {h : Headers}
    (move : s.Moves use (some answer) s') (handed : answer.headers? = some h) : h = s.headers := by
  cases move with
  | connects => cases handed
  | refreshes => cases handed
  | headers =>
      cases handed
      rfl
  | payload kernels =>
      cases built : s.payload kernels with
      | error fault =>
          rw [built] at handed
          cases handed
      | ok p =>
          rw [built] at handed
          cases handed
          obtain ⟨_, _, _, _, rfl⟩ := of_payload built
          rfl

/-- What a use sends is a login for the settings that are then in force. -/
theorem Renewed.exchange {before after : Session} {exchanges : List Exchange} {x : Exchange}
    (renewed : Renewed before after exchanges) (here : x ∈ exchanges) :
    ∃ a, before.settings = some a ∧ x.request = a.loginRequest := by
  cases renewed with
  | unasked => cases here
  | granted force _ asked =>
      obtain rfl := List.mem_singleton.1 here
      exact ⟨_, force, asked⟩
  | refused force _ asked =>
      obtain rfl := List.mem_singleton.1 here
      exact ⟨_, force, asked⟩

/-! ## Every run -/

/-- Take any run on one session and any moment of it.  If the session hands out headers then, alone
or with a submission, what they carry for authorization is exactly the bearer token that stands: the
one that the latest successful login gave, made at the base URL and with the credentials of the
settings that are still in force.  If a request is sent then, it is such a login for the settings in
force, and its headers carry nothing for authorization. -/
theorem bearer_of_settings_in_force (run : Run Moves fresh past s) {use : Use} {answer : Answer}
    {earlier : Past Use Answer} (moment : (use, some answer) :: earlier <:+ past) :
    (∀ h, answer.headers? = some h → ∀ value,
      Carries h value ↔ ∃ text user, Stands text user earlier ∧ value = "Bearer " ++ text) ∧
    ∀ x ∈ answer.exchanges,
      (∃ a, inForce ((use, some answer) :: earlier) = some a ∧ LoginWith a x.request) ∧
        ∀ value, ¬ Carries x.request.headers value := by
  obtain ⟨_, run⟩ := run.at_suffix moment
  cases run with
  | @step _ before _ _ _ run move =>
      have agrees := agrees_of_run run
      refine ⟨?_, ?_⟩
      · intro h handed value
        rw [move.headers_of handed, carries_headers_iff agrees]
        simp only [agrees.token]
      · intro x here
        obtain ⟨_, same, renewed⟩ := move.renewed
        cases same
        obtain ⟨a, force, asked⟩ := renewed.exchange here
        rw [(agrees.prepare use (some answer)).1] at force
        rw [asked]
        exact ⟨⟨a, force, loginWith_loginRequest a⟩, not_carries_loginRequest a⟩

/-- A configuration for a site of its own. -/
def otherSite : Config :=
  Dict.ofList [("access_token_id", "j"), ("access_token_secret", "t"),
    ("base_url", "https://other.test")]

/-- A network on which every request fails. -/
def outage : Network Unit := ⟨fun _ wire => (.error (.transport (some 503) "unavailable"), wire)⟩

/-- A session that was logged in elsewhere when its login at the other site failed. -/
def movedSession : Session :=
  ((connect .empty otherSite).run outage ⟨0, 0, 0⟩ ⟨(slashedLine "first").state, (), []⟩).2.state

/-- The same session once the token has been renewed. -/
def renewedSession : Session :=
  (refresh.run (SharedFile.saying (welcome "second")) ⟨0, 0, 0⟩ ⟨movedSession, (), []⟩).2.state

/-- What has happened until the login at the other site failed. -/
def movedPast : Past Use Answer :=
  [(.connect .empty otherSite, some (.ended
      ((connect .empty otherSite).exchanges outage ⟨0, 0, 0⟩ ⟨(slashedLine "first").state, (), []⟩)
      ((connect .empty otherSite).run outage ⟨0, 0, 0⟩ ⟨(slashedLine "first").state, (), []⟩).1)),
    (.connect .empty slashedUrl, some (.ended
      ((connect .empty slashedUrl).exchanges (SharedFile.saying (welcome "first")) ⟨0, 0, 0⟩
        ⟨.fresh, (), []⟩)
      ((connect .empty slashedUrl).run (SharedFile.saying (welcome "first")) ⟨0, 0, 0⟩
        ⟨.fresh, (), []⟩).1))]

/-- What has happened until the token was renewed; the headers have been looked at before. -/
def renewedPast : Past Use Answer :=
  (.refresh, some (.ended
      (refresh.exchanges (SharedFile.saying (welcome "second")) ⟨0, 0, 0⟩ ⟨movedSession, (), []⟩)
      (refresh.run (SharedFile.saying (welcome "second")) ⟨0, 0, 0⟩ ⟨movedSession, (), []⟩).1))
    :: (.headers, some (.headers movedSession.headers)) :: movedPast

theorem run_renewedPast : Run Moves fresh renewedPast renewedSession := by
  have first : Run Moves fresh movedPast.tail (slashedLine "first").state :=
    .step .start (.connects .empty slashedUrl (SharedFile.saying (welcome "first")) ⟨0, 0, 0⟩ ())
  have second : Run Moves fresh movedPast movedSession :=
    first.step (.connects .empty otherSite outage ⟨0, 0, 0⟩ ())
  exact (second.step .headers).step
    (.refreshes (SharedFile.saying (welcome "second")) ⟨0, 0, 0⟩ ())

/-- The first token is gone with its settings, and the second one stands under the new settings. -/
theorem bearer_of_otherSite :
    Run Moves fresh ((.headers, some (.headers renewedSession.headers)) :: renewedPast)
        renewedSession ∧
      (¬ ∃ text user, Stands text user movedPast) ∧
      Carries renewedSession.headers "Bearer second" ∧
      ∃ text user, Stands text user renewedPast ∧ "Bearer second" = "Bearer " ++ text := by
  have run := run_renewedPast.step .headers
  have moved : (.headers, some (.headers movedSession.headers)) :: movedPast
      <:+ (.headers, some (.headers renewedSession.headers)) :: renewedPast :=
    (List.suffix_cons _ _).trans (List.suffix_cons _ _)
  have atMove := (bearer_of_settings_in_force run moved).1 _ rfl
  have atEnd := (bearer_of_settings_in_force run (List.suffix_refl _)).1 _ rfl
  have carries : Carries renewedSession.headers "Bearer second" := ⟨"Authorization", by decide, rfl⟩
  refine ⟨run, ?_, carries, (atEnd _).1 carries⟩
  rintro ⟨text, user, stands⟩
  exact not_carries_settings _ _ ((atMove _).2 ⟨text, user, stands, rfl⟩)

end Session
end Fermioniq
end QuantumJobs

import QuantumJobs.Proofs.JobSubmissions
import QuantumJobs.Proofs.SessionCalls

/-!
# SessionHeaders — what a session shows with every request

The headers of a session depend on the configuration in force and on the token that it holds.  They
are asked for at any moment, also while a login is under way or after one has failed.  A session
that has no settings shows nothing.  All others show at most four headers, none of them empty.

A token is held from the end of a connection that succeeds until the next configuration is taken
into use.  Renewals that fail meanwhile do not touch it, so the session can go on submitting jobs.
-/

namespace QuantumJobs
namespace Fermioniq

/-- What stands for the client: the configured text, or a fixed one if that is empty or absent. -/
inductive Agent (c : Config) : String → Prop where
  | configured {value : String} : c.get? "user_agent" = some value → value ≠ "" → Agent c value
  | fixed : (∀ value, c.get? "user_agent" = some value → value = "") → Agent c defaultUserAgent

/-- The headers for a configuration and a token. -/
structure Shows (env : Environment) (c : Config) (token : Option Token) (h : Headers) : Prop where
  contentType : h.get? "Content-Type" = some "application/json"
  userAgent : ∃ agent, Agent c agent ∧ h.get? "User-Agent" = some agent
  key : ∀ value, h.get? "x-functions-key" = some value ↔ Gives env c "api_key" apiKeyVariable value
  authorization : ∀ value, h.get? "Authorization" = some value ↔
    ∃ t, token = some t ∧ value = "Bearer " ++ t.text
  others : ∀ name value, h.get? name = some value →
    name ∈ ["Content-Type", "User-Agent", "x-functions-key", "Authorization"]

variable {env : Environment} {c : Config}

/-! ## What settings show -/

section Settings

variable {a : Settings}

theorem agent_of_ofConfig (valid : Settings.ofConfig env c = .ok a) : Agent c a.userAgent := by
  rw [(Settings.sourced_of_ofConfig valid).userAgent]
  cases given : (c.get? "user_agent").filter (· ≠ "") with
  | some value =>
      obtain ⟨configured, notEmpty⟩ := Option.filter_eq_some_iff.1 given
      exact .configured configured (of_decide_eq_true notEmpty)
  | none =>
      refine .fixed ?_
      intro value configured
      by_contra notEmpty
      rw [configured, Option.filter_some, if_pos (decide_eq_true notEmpty)] at given
      cases given

/-- The key of the settings is given unless it is empty. -/
theorem gives_apiKey_iff (valid : Settings.ofConfig env c = .ok a) (value : String) :
    Gives env c "api_key" apiKeyVariable value ↔ a.apiKey ≠ "" ∧ value = a.apiKey := by
  rw [← filter_lookup_eq_some, (Settings.sourced_of_ofConfig valid).apiKey]
  cases Config.lookup c env "api_key" apiKeyVariable with
  | none => simp
  | some key =>
      rw [Option.filter_eq_some_iff, Option.getD_some, Option.some.injEq, decide_eq_true_iff]
      constructor
      · rintro ⟨rfl, notEmpty⟩
        exact ⟨notEmpty, rfl⟩
      · rintro ⟨notEmpty, rfl⟩
        exact ⟨rfl, notEmpty⟩

theorem get?_headers (a : Settings) (name : String) :
    a.headers.get? name
      = if "x-functions-key" = name ∧ a.apiKey ≠ "" then some a.apiKey
        else if "User-Agent" = name then some a.userAgent
        else if "Content-Type" = name then some "application/json"
        else none := by
  have common : (Dict.ofList [("Content-Type", "application/json"), ("User-Agent", a.userAgent)]
      : Headers).get? name
        = if "User-Agent" = name then some a.userAgent
          else if "Content-Type" = name then some "application/json" else none := by
    show ((Dict.empty.insert _ _).insert _ _ : Headers).get? name = _
    rw [Dict.get?_insert, Dict.get?_insert]
    rfl
  unfold Settings.headers
  by_cases keyless : a.apiKey = ""
  · have none : ¬ ("x-functions-key" = name ∧ a.apiKey ≠ "") := fun both => both.2 keyless
    rw [if_pos keyless, common, if_neg none]
  · rw [if_neg keyless, Dict.get?_insert, common]
    simp only [keyless, ne_eq, not_false_eq_true, and_true]

theorem shows_settings (valid : Settings.ofConfig env c = .ok a) : Shows env c none a.headers where
  contentType := by
    rw [get?_headers]
    simp
  userAgent := by
    refine ⟨a.userAgent, agent_of_ofConfig valid, ?_⟩
    rw [get?_headers]
    simp
  key := by
    intro value
    rw [gives_apiKey_iff valid, get?_headers]
    by_cases keyless : a.apiKey = ""
    · simp [keyless]
    · simp [keyless, eq_comm]
  authorization := by
    intro value
    rw [get?_headers]
    simp
  others := by
    intro name value found
    rw [get?_headers] at found
    by_contra other
    simp only [List.mem_cons, List.not_mem_nil, or_false, not_or] at other
    obtain ⟨content, agent, key, _⟩ := other
    simp [Ne.symm content, Ne.symm agent, Ne.symm key] at found

end Settings

namespace Shows

variable {token : Option Token} {h : Headers}

/-- A token is shown beside what the settings show. -/
theorem insert (bare : Shows env c none h) (t : Token) :
    Shows env c (some t) (h.insert "Authorization" ("Bearer " ++ t.text)) := by
  have other : ∀ name, name ≠ "Authorization" →
      (h.insert "Authorization" ("Bearer " ++ t.text)).get? name = h.get? name := by
    intro name differs
    rw [Dict.get?_insert, if_neg (Ne.symm differs)]
  refine ⟨?_, ?_, ?_, ?_, ?_⟩
  · rw [other _ (by decide)]
    exact bare.contentType
  · rw [other _ (by decide)]
    exact bare.userAgent
  · rw [other _ (by decide)]
    exact bare.key
  · intro value
    rw [Dict.get?_insert, if_pos rfl]
    simp [eq_comm]
  · intro name value found
    rcases eq_or_ne name "Authorization" with rfl | differs
    · decide
    · exact bare.others name value ((other name differs).symm.trans found)

/-- No header is empty. -/
theorem value_ne_empty (shows : Shows env c token h) {name value : String}
    (found : h.get? name = some value) : value ≠ "" := by
  have listed := shows.others name value found
  simp only [List.mem_cons, List.not_mem_nil, or_false] at listed
  rcases listed with rfl | rfl | rfl | rfl
  · cases shows.contentType.symm.trans found
    decide
  · obtain ⟨agent, stands, shown⟩ := shows.userAgent
    cases shown.symm.trans found
    cases stands with
    | configured _ notEmpty => exact notEmpty
    | fixed _ => decide
  · exact ((shows.key value).1 found).notEmpty
  · obtain ⟨t, _, rfl⟩ := (shows.authorization value).1 found
    simp [String.append_eq_empty_iff]

end Shows

/-! ## What sessions show -/

namespace Session

variable {s s' : Session} {a : Settings}

theorem shows_headers (valid : Settings.ofConfig env c = .ok a) (settings : s.settings = some a)
    (notEmpty : ∀ t, s.tokens.current = some t → t.text ≠ "") :
    Shows env c s.tokens.current s.headers := by
  unfold headers
  cases held : s.tokens.current with
  | none =>
      have text : s.tokens.text?.filter (· ≠ "") = none := by
        rw [TokenCache.text?, held]
        rfl
      simp only [settings, text]
      exact shows_settings valid
  | some t =>
      have text : s.tokens.text?.filter (· ≠ "") = some t.text := by
        rw [TokenCache.text?, held]
        exact Option.filter_eq_some_iff.2 ⟨rfl, decide_eq_true (notEmpty t held)⟩
      simp only [settings, text]
      exact (shows_settings valid).insert t

theorem headers_congr (settings : s'.settings = s.settings)
    (current : s'.tokens.current = s.tokens.current) : s'.headers = s.headers := by
  unfold headers TokenCache.text?
  rw [settings, current]

theorem payload_congr (settings : s'.settings = s.settings)
    (current : s'.tokens.current = s.tokens.current) (kernels : List Kernel) :
    s'.payload kernels = s.payload kernels := by
  unfold payload TokenCache.user?
  rw [settings, current, headers_congr settings current]

namespace Busy

variable {b : Busy} {past : Past Event Ended}

theorem Agrees.shows (agrees : Agrees past b) (force : inForce past = some (env, c)) :
    Shows env c b.session.tokens.current b.session.headers := by
  obtain ⟨a, valid, settings⟩ : Brings (some (env, c)) b.session.settings := force ▸ agrees.settings
  exact shows_headers valid settings fun t held => (agrees.usable t held).1

theorem Agrees.headers_eq_empty (agrees : Agrees past b) (fresh : inForce past = none) :
    b.session.headers = Dict.empty := by
  have settings : Brings none b.session.settings := fresh ▸ agrees.settings
  unfold headers
  rw [show b.session.settings = none from settings]

theorem Agrees.loggedIn (agrees : Agrees past b) (force : inForce past = some (env, c))
    (held : b.session.tokens.current.isSome = true) :
    ∃ user, b.session.LoggedIn env c user := by
  obtain ⟨a, valid, settings⟩ : Brings (some (env, c)) b.session.settings := force ▸ agrees.settings
  obtain ⟨t, current⟩ := Option.isSome_iff_exists.1 held
  obtain ⟨_, user, whose⟩ := agrees.usable t current
  exact ⟨user, uses_of_settings valid settings, t.text, t, current, rfl, whose⟩

/-- A session that shows a token and can phrase every submission. -/
structure Serves (s : Session) (env : Environment) (c : Config) : Prop where
  authorized : ∃ t, s.tokens.current = some t ∧
    (backend.headers s).get? "Authorization" = some ("Bearer " ++ t.text)
  submits : ∃ user, ∀ kernels, ∃ p, backend.payload s kernels = .ok p ∧
    Posts s c user kernels (.post (backend.baseUrl s) p.path p.headers p.body)

theorem Agrees.serves (agrees : Agrees past b) (force : inForce past = some (env, c))
    (held : b.session.tokens.current.isSome = true) : Serves b.session env c := by
  obtain ⟨t, current⟩ := Option.isSome_iff_exists.1 held
  obtain ⟨user, loggedIn⟩ := agrees.loggedIn force held
  refine ⟨⟨t, current, ?_⟩, user, fun kernels => payload_of_loggedIn loggedIn kernels⟩
  exact ((agrees.shows force).authorization _).2 ⟨t, current, rfl⟩

theorem inForce_append_of_unconfigured {late early : Past Event Ended}
    (quiet : Unconfigured late) : inForce (late ++ early) = inForce early := by
  unfold inForce
  rw [List.findSome?_append, List.findSome?_eq_none_iff.2 quiet]
  rfl

/-- Take any calls on a session, under way together or one after another, with any answers to their
logins, and look at the session at any moment.  Before any configuration has been taken into use, it
shows no headers.  From then on it shows exactly those for the configuration in force and the token
that it holds, and no header is empty.

Once a connection has succeeded, and until the next configuration is taken into use, the session has
a token, shows it, and can phrase every submission.  If all calls that end meanwhile fail, it shows
and submits what it did when the connection succeeded. -/
theorem headers_of_run (run : Run Moves (idle fresh) past b) :
    (inForce past = none → backend.headers b.session = Dict.empty) ∧
    (∀ env c, inForce past = some (env, c) →
      Shows env c b.session.tokens.current (backend.headers b.session)) ∧
    (∀ name value, (backend.headers b.session).get? name = some value → value ≠ "") ∧
    ∀ late e env c early, past = late ++ (e, some ⟨.connect env c, .ok ()⟩) :: early →
      Unconfigured late →
        inForce past = some (env, c) ∧ Serves b.session env c ∧
        (AllFail late →
          ∃ b₀, Run Moves (idle fresh) ((e, some ⟨.connect env c, .ok ()⟩) :: early) b₀ ∧
            backend.headers b.session = backend.headers b₀.session ∧
            ∀ kernels, backend.payload b.session kernels = backend.payload b₀.session kernels) := by
  have agrees := agrees_of_run run
  refine ⟨agrees.headers_eq_empty, fun env c force => agrees.shows force, ?_, ?_⟩
  · intro name value found
    cases force : inForce past with
    | none =>
        rw [show backend.headers b.session = Dict.empty from agrees.headers_eq_empty force] at found
        cases found
    | some x => exact (agrees.shows force).value_ne_empty found
  · rintro late e env c early rfl quiet
    -- The run is cut where the connection ends: it holds a token there, and what comes later lets
    -- go neither of that nor of the configuration.
    obtain ⟨b₀, first, later⟩ := run.split
    have atFirst := agrees_of_run first
    obtain ⟨held, force⟩ : b₀.session.tokens.current.isSome = true ∧
        inForce ((e, some ⟨.connect env c, .ok ()⟩) :: early) = some (env, c) := by
      cases first with
      | step before move =>
          have agrees := agrees_of_run before
          obtain ⟨held, other, caller, w, waits, connects⟩ := current_of_ok agrees.awaits move
          refine ⟨held, ?_⟩
          rw [inForce_cons, other]
          exact agrees.connecting caller w env c waits connects
    have lasts := (lasts_of_run atFirst.awaits later).2 quiet
    have still := (inForce_append_of_unconfigured quiet).trans force
    refine ⟨still, agrees.serves still (lasts.held held), ?_⟩
    intro fail
    have current := lasts.unchanged fail
    exact ⟨b₀, first, headers_congr lasts.settings current, payload_congr lasts.settings current⟩

/-- A connection succeeds. -/
def connected : Past Event Ended :=
  [(.answer 0 (.ok (welcome "first")), some ⟨.connect .empty slashedUrl, .ok ()⟩),
    (.start 0 (.connect .empty slashedUrl), none)]

/-- A renewal fails. -/
def notRenewed : Past Event Ended :=
  [(.answer 1 (.error (.transport none "timeout")),
      some ⟨.refresh, .error (.authentication (Fault.transport none "timeout").message)⟩),
    (.start 1 .refresh, none)]

theorem run_notRenewed : ∃ b, Run Moves (idle fresh) (notRenewed ++ connected) b := by
  obtain ⟨a, valid⟩ : ∃ a, Settings.ofConfig .empty slashedUrl = .ok a := ⟨_, rfl⟩
  obtain ⟨_, begun, awaits⟩ := advance_connect ⟨0, 0, 0⟩ fresh valid
  -- Either call starts on an idle session and ends with its answer.
  have first := run_of_awaits (b := idle fresh) (.connect .empty slashedUrl) 0 begun awaits rfl
    (fun _ => rfl) (.ok (welcome "first"))
  let granted := (fresh.configure a).record (tokenOf ⟨0, 0, 0⟩ (.ok (welcome "first")))
  obtain ⟨_, begun', awaits'⟩ := advance_refresh ⟨0, 0, 0⟩ (rfl : granted.settings = some a)
  have second := run_of_awaits (b := idle granted) .refresh 1 begun' awaits' rfl nofun
    (.error (.transport none "timeout"))
  exact ⟨_, first.trans second⟩

/-- After a renewal has failed, the session shows what it did when the connection succeeded. -/
theorem serves_notRenewed :
    ∃ b b₀, Run Moves (idle fresh) (notRenewed ++ connected) b ∧ Run Moves (idle fresh) connected b₀ ∧
      Serves b.session .empty slashedUrl ∧
      backend.headers b.session = backend.headers b₀.session := by
  obtain ⟨b, run⟩ := run_notRenewed
  obtain ⟨_, _, _, after⟩ := headers_of_run run
  have quiet : Unconfigured notRenewed := by
    simp [Unconfigured, notRenewed, Event.configuration?, Call.configuration?]
  have fail : AllFail notRenewed := by simp [AllFail, notRenewed]
  obtain ⟨_, serves, same⟩ := after notRenewed _ _ _ _ rfl quiet
  obtain ⟨b₀, first, headers, _⟩ := same fail
  exact ⟨b, b₀, run, first, serves, headers⟩

end Busy
end Session
end Fermioniq
end QuantumJobs

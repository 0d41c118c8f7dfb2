import QuantumJobs.Proofs.SessionHeaders
import QuantumJobs.Proofs.SubmittedOnce

/-!
# JoinedUrls — slashes between a base URL and a path

A base URL loses the slashes at its end twice: when a configuration is taken into use, and again
when a path is joined to it.  The path loses the slashes at its start, and one slash is put between
the two.  So however many slashes a base URL is configured with, the settings that come of it are
the same, and everything that is sent goes to the same URLs.
-/

namespace QuantumJobs

/-! ## Slashes -/

def slashes (n : Nat) : String := String.ofList (List.replicate n '/')

def EndsInSlash (s : String) : Prop := s.toList.getLast? = some '/'

def BeginsWithSlash (s : String) : Prop := s.toList.head? = some '/'

instance (s : String) : Decidable (EndsInSlash s) := inferInstanceAs (Decidable (_ = _))

instance (s : String) : Decidable (BeginsWithSlash s) := inferInstanceAs (Decidable (_ = _))

theorem toList_slashes (n : Nat) : (slashes n).toList = List.replicate n '/' :=
  String.toList_ofList

theorem dropWhile_replicate_append {n : Nat} {cs : List Char} (clean : cs.head? ≠ some '/') :
    (List.replicate n '/' ++ cs).dropWhile (· = '/') = cs := by
  have all : ∀ c ∈ List.replicate n '/', decide (c = '/') = true := by
    intro c here
    exact decide_eq_true (List.eq_of_mem_replicate here)
  rw [List.dropWhile_append_of_pos all]
  -- What is left begins with another character, or is empty.
  cases cs with
  | nil => rfl
  | cons c cs =>
      refine List.dropWhile_cons_of_neg ?_
      rw [decide_eq_true_iff]
      rintro rfl
      exact clean rfl

theorem trimStartOf_slashes {p : String} (clean : ¬ BeginsWithSlash p) (n : Nat) :
    Text.trimStartOf '/' (slashes n ++ p) = p := by
  rw [Text.trimStartOf, String.toList_append, toList_slashes, dropWhile_replicate_append clean,
    String.ofList_toList]

theorem trimEndOf_slashes {b : String} (clean : ¬ EndsInSlash b) (m : Nat) :
    Text.trimEndOf '/' (b ++ slashes m) = b := by
  -- Seen from the end, the slashes come first.
  have clean : b.toList.reverse.head? ≠ some '/' := by
    rw [List.head?_reverse]
    exact clean
  rw [Text.trimEndOf, Text.dropEndWhile, String.toList_append, toList_slashes, List.reverse_append,
    List.reverse_replicate, dropWhile_replicate_append clean, List.reverse_reverse,
    String.ofList_toList]

theorem joinUrl_slashes {b p : String} (base : ¬ EndsInSlash b) (path : ¬ BeginsWithSlash p)
    (notEmpty : p ≠ "") (m n : Nat) : joinUrl (b ++ slashes m) (slashes n ++ p) = b ++ "/" ++ p := by
  have some : (slashes n ++ p).isEmpty = false := by
    rw [← Bool.not_eq_true, String.isEmpty_iff, String.append_eq_empty_iff]
    exact fun both => notEmpty both.2
  rw [joinUrl, if_neg (by rw [some]; exact Bool.false_ne_true), trimEndOf_slashes base,
    trimStartOf_slashes path]

namespace Fermioniq

/-! ## Settings -/

variable {b : String} {env : Environment} {c d : Config}

/-- Two configurations with the same base URL, but for the number of slashes at its end, and with
the same values otherwise. -/
structure SameButSlashes (c d : Config) : Prop where
  base : ∃ b m n, ¬ EndsInSlash b ∧ c.get? "base_url" = some (b ++ slashes m) ∧
    d.get? "base_url" = some (b ++ slashes n)
  others : ∀ key, key ≠ "base_url" → c.get? key = d.get? key

theorem trimEndOf_baseUrl {m : Nat} (clean : ¬ EndsInSlash b)
    (given : c.get? "base_url" = some (b ++ slashes m)) :
    Text.trimEndOf '/' (Config.valueOr c "base_url" defaultBaseUrl) = b := by
  rw [Config.valueOr, given, Option.getD_some, trimEndOf_slashes clean]

/-- Settings have the base URL without the slashes. -/
theorem baseUrl_of_ofConfig {m : Nat} {a : Settings} (clean : ¬ EndsInSlash b)
    (given : c.get? "base_url" = some (b ++ slashes m)) (valid : Settings.ofConfig env c = .ok a) :
    a.baseUrl = b :=
  (Settings.sourced_of_ofConfig valid).baseUrl.trans (trimEndOf_baseUrl clean given)

/-- Settings do not depend on the number of slashes. -/
theorem SameButSlashes.ofConfig (same : SameButSlashes c d) :
    Settings.ofConfig env c = Settings.ofConfig env d := by
  obtain ⟨b, m, n, clean, mine, yours⟩ := same.base
  apply Settings.ofConfig_congr same.others
  rw [trimEndOf_baseUrl clean mine, trimEndOf_baseUrl clean yours]

theorem SameButSlashes.connectTo (same : SameButSlashes c d) (registry : Registry Session)
    (name : String) :
    backend.connectTo registry env name c = backend.connectTo registry env name d := by
  have connects : backend.connect env c = backend.connect env d :=
    Session.connect_congr same.ofConfig
  unfold Backend.connectTo
  rw [connects]

/-! ## What a session sends -/

namespace Session

variable {τ : Type} {net : Network τ} {now : Instant} {path : String} {a : Settings}
  {line line' : Line Session τ}

/-- What a session with the settings sends in order to fetch a path. -/
inductive Fetches (a : Settings) (path : String) : Request → Prop where
  | get (headers : Headers) : Fetches a path (.get a.baseUrl path headers)
  | login : Fetches a path a.loginRequest

theorem baseUrl_of_settings {s : Session} (settings : s.settings = some a) :
    backend.baseUrl s = a.baseUrl := by
  show s.baseUrl = a.baseUrl
  unfold baseUrl
  rw [settings]

theorem fetches_getExchange (net : Network τ) (path : String)
    (settings : line.state.settings = some a) :
    Fetches a path (backend.getExchange net path line).request := by
  have request : (backend.getExchange net path line).request
      = .get (backend.baseUrl line.state) path (backend.headers line.state) := rfl
  rw [request, baseUrl_of_settings settings]
  exact .get _

theorem fetches_refresh (net : Network τ) (now : Instant) (path : String)
    (settings : line.state.settings = some a) :
    ∀ x ∈ backend.refresh.exchanges net now line, Fetches a path x.request := by
  intro x sent
  have login : backend.refresh.exchanges net now line = _ := exchanges_refresh net now settings
  rw [login] at sent
  cases List.mem_singleton.1 sent
  exact .login

/-- Whatever a fetch is answered, the settings stay, and all that is sent is what they call for. -/
theorem fetches_of_fetched {log : FetchLog} (settings : line.state.settings = some a)
    (fetched : backend.FetchedBy net now path line log line') :
    line'.state.settings = some a ∧ ∀ x ∈ log.exchanges, Fetches a path x.request := by
  have first := fetches_getExchange net path settings
  -- A GET leaves the session as it is, and a renewal leaves its settings.
  have after : (backend.get net path line).2.state.settings = some a := settings
  have logins := fetches_refresh net now path after
  have renewed : (backend.refresh.run net now (backend.get net path line).2).2.state.settings
      = some a := (settings_run_refresh _).trans after
  cases fetched with
  | once ends _ =>
      subst ends
      refine ⟨after, ?_⟩
      intro x here
      cases List.mem_singleton.1 here
      exact first
  | notRefreshed got _ failed =>
      subst got
      rw [failed] at renewed
      refine ⟨renewed, ?_⟩
      intro x here
      rcases List.mem_cons.1 here with rfl | here
      · exact first
      · exact logins x here
  | repeated got _ refreshed ends =>
      subst got ends
      rw [refreshed] at renewed
      refine ⟨renewed, ?_⟩
      intro x here
      rcases List.mem_cons.1 here with rfl | here
      · exact first
      · rcases List.mem_append.1 here with here | here
        · exact logins x here
        · cases List.mem_singleton.1 here
          exact fetches_getExchange net path renewed

/-- A request of a poll and the URL that it goes to. -/
inductive PollUrl (b job : String) (r : Request) : Prop where
  | login : r.method = .post → r.path = "/api/login" → r.url = b ++ "/api/login" → PollUrl b job r
  | status : r.method = .get → r.path = statusPath job → r.url = b ++ "/api/jobs/" ++ job →
      PollUrl b job r
  | results : r.method = .get → r.path = resultsPath job →
      r.url = b ++ "/api/jobs/" ++ job ++ "/results" → PollUrl b job r

/-- Everything that a session sends goes to a URL below the base. -/
structure SendsBelow (b : String) (net : Network τ) (now : Instant) (line : Line Session τ) :
    Prop where
  login : (backend.refresh.exchanges net now line).map (·.request.url) = [b ++ "/api/login"]
  submission : ∀ kernels, ∀ x ∈ (backend.submit kernels).exchanges net now line,
    x.request.url = b ++ "/api/jobs"
  /-- The job may have been submitted by any session of the emulator. -/
  poll : ∀ h, h.statusPath = statusPath h.job →
    ∀ x ∈ (backend.poll h).exchanges net now line, PollUrl b h.job x.request

theorem joinUrl_path (clean : ¬ EndsInSlash b) (p : String) (path : ¬ BeginsWithSlash p)
    (notEmpty : p ≠ "") : joinUrl b ("/" ++ p) = b ++ ("/" ++ p) := by
  -- A path as the session writes it begins with one slash, and its base ends in none.
  have none : b ++ slashes 0 = b := String.append_empty
  have one : slashes 1 = "/" := rfl
  have joined := joinUrl_slashes clean path notEmpty 0 1
  rw [none, one, String.append_assoc] at joined
  exact joined

theorem joinUrl_job (clean : ¬ EndsInSlash b) (rest : String) :
    joinUrl b ("/api/jobs/" ++ rest) = b ++ ("/api/jobs/" ++ rest) := by
  have whole : "/api/jobs/" ++ rest = "/" ++ ("api/jobs/" ++ rest) := by
    rw [← String.append_assoc]
    rfl
  rw [whole]
  refine joinUrl_path clean _ ?_ ?_
  · simp [BeginsWithSlash]
  · simp [String.append_eq_empty_iff]

theorem url_login (clean : ¬ EndsInSlash a.baseUrl) :
    a.loginRequest.url = a.baseUrl ++ "/api/login" :=
  joinUrl_path clean "api/login" (by decide) (by decide)

theorem url_jobs (clean : ¬ EndsInSlash b) (headers : Headers) (body : Json) :
    (Request.post b jobsPath headers body).url = b ++ "/api/jobs" :=
  joinUrl_path clean "api/jobs" (by decide) (by decide)

theorem url_status (clean : ¬ EndsInSlash b) (job : String) (headers : Headers) :
    (Request.get b (statusPath job) headers).url = b ++ "/api/jobs/" ++ job := by
  rw [String.append_assoc]
  exact joinUrl_job clean job

theorem url_results (clean : ¬ EndsInSlash b) (job : String) (headers : Headers) :
    (Request.get b (resultsPath job) headers).url = b ++ "/api/jobs/" ++ job ++ "/results" := by
  have path : resultsPath job = "/api/jobs/" ++ (job ++ "/results") := String.append_assoc ..
  show joinUrl b (resultsPath job) = _
  rw [path, joinUrl_job clean, String.append_assoc, String.append_assoc]

theorem pollUrl_login (clean : ¬ EndsInSlash a.baseUrl) (job : String) :
    PollUrl a.baseUrl job a.loginRequest :=
  .login rfl rfl (url_login clean)

theorem pollUrl_status (clean : ¬ EndsInSlash a.baseUrl) {job : String} {r : Request}
    (fetches : Fetches a (statusPath job) r) : PollUrl a.baseUrl job r := by
  cases fetches with
  | get headers => exact .status rfl rfl (url_status clean job headers)
  | login => exact pollUrl_login clean job

theorem pollUrl_results (clean : ¬ EndsInSlash a.baseUrl) {job : String} {r : Request}
    (fetches : Fetches a (resultsPath job) r) : PollUrl a.baseUrl job r := by
  cases fetches with
  | get headers => exact .results rfl rfl (url_results clean job headers)
  | login => exact pollUrl_login clean job

theorem pollUrl_of_polledBy (clean : ¬ EndsInSlash a.baseUrl)
    (settings : line.state.settings = some a) {h : Handle} (own : h.statusPath = statusPath h.job)
    {logs : List FetchLog} (polled : backend.PolledBy net now h line logs) :
    ∀ log ∈ logs, ∀ x ∈ log.exchanges, PollUrl a.baseUrl h.job x.request := by
  cases polled with
  | status fetched _ =>
      rw [own] at fetched
      obtain ⟨_, status⟩ := fetches_of_fetched settings fetched
      intro log here x sent
      cases List.mem_singleton.1 here
      exact pollUrl_status clean (status x sent)
  | results fetched due fetched' =>
      rw [own] at fetched
      obtain ⟨settings', status⟩ := fetches_of_fetched settings fetched
      -- The results are fetched by the session that the status fetch has left.
      obtain ⟨_, _, _, path⟩ := Backend.resultsDue_eq_some.1 due
      cases path
      obtain ⟨_, results⟩ := fetches_of_fetched settings' fetched'
      intro log here x sent
      rcases List.mem_cons.1 here with rfl | here
      · exact pollUrl_status clean (status x sent)
      · cases List.mem_singleton.1 here
        exact pollUrl_results clean (results x sent)

theorem sendsBelow_of_settings (clean : ¬ EndsInSlash a.baseUrl)
    (settings : line.state.settings = some a) : SendsBelow a.baseUrl net now line where
  login := by
    have login : backend.refresh.exchanges net now line = _ := exchanges_refresh net now settings
    rw [login]
    exact congrArg (fun url => [url]) (url_login clean)
  submission := by
    intro kernels x sent
    obtain ⟨p, phrased, request⟩ := Backend.phrased_of_sent sent
    obtain ⟨_, _, _, _, rfl⟩ := of_payload phrased
    rw [request, baseUrl_of_settings settings]
    exact url_jobs clean _ _
  poll := by
    intro h own x sent
    obtain ⟨logs, polled, log, here, sent⟩ := Backend.polledBy_of_sent sent
    exact pollUrl_of_polledBy clean settings own polled log here x sent

/-- The session has a configuration in force, and its base URL is the base. -/
structure AtBase (s : Session) (b : String) (c : Config) : Prop where
  baseUrl : backend.baseUrl s = b
  persisted : backend.persisted s = (Config.without c secretKeys).insert "base_url" b
  sends : ∀ (τ : Type) (net : Network τ) (now : Instant) (line : Line Session τ),
    line.state = s → SendsBelow b net now line

theorem atBase_of_settings {s : Session} {m : Nat} (clean : ¬ EndsInSlash b)
    (given : c.get? "base_url" = some (b ++ slashes m)) (valid : Settings.ofConfig env c = .ok a)
    (settings : s.settings = some a) : s.AtBase b c := by
  have url := baseUrl_of_ofConfig clean given valid
  have base : s.baseUrl = b := (baseUrl_of_settings settings).trans url
  refine ⟨base, ?_, ?_⟩
  · rw [← base]
    exact (uses_of_settings valid settings).persisted
  · rintro τ net now line rfl
    rw [← url] at clean ⊢
    exact sendsBelow_of_settings clean settings

/-- While a configuration is in force, its session sends everything below the base. -/
theorem atBase_of_run {m : Nat} {past : Past Busy.Event Ended} {busy : Busy}
    (clean : ¬ EndsInSlash b) (given : c.get? "base_url" = some (b ++ slashes m))
    (run : Run Busy.Moves (Busy.idle fresh) past busy)
    (force : Busy.inForce past = some (env, c)) : busy.session.AtBase b c := by
  obtain ⟨a, valid, settings⟩ : Busy.Brings (some (env, c)) busy.session.settings :=
    force ▸ (Busy.agrees_of_run run).settings
  exact atBase_of_settings clean given valid settings

/-- A configuration that is taken into use logs in below its own base, also if the login fails. -/
theorem url_of_connect {m : Nat} (clean : ¬ EndsInSlash b)
    (given : c.get? "base_url" = some (b ++ slashes m)) :
    ∀ x ∈ (backend.connect env c).exchanges net now line, x.request.url = b ++ "/api/login" := by
  intro x sent
  cases valid : Settings.ofConfig env c with
  | error fault =>
      have ends : backend.connect env c = .done (.error fault) := connect_of_error valid
      rw [ends] at sent
      cases sent
  | ok a =>
      have login : (backend.connect env c).exchanges net now line = _ :=
        exchanges_connect net now line valid
      have url := baseUrl_of_ofConfig clean given valid
      rw [login] at sent
      cases List.mem_singleton.1 sent
      rw [← url] at clean ⊢
      exact url_login clean

end Session
end Fermioniq

namespace Traffic

open Fermioniq (Settings SameButSlashes backendName onlyFermioniq slashedJob slashedUrl)
open Fermioniq.Session (AtBase Busy)

variable {τ : Type} {registry : Registry Fermioniq.Session} {net : Network τ}

/-! ## Runs -/

/-- Two acts that do the same, but for the slashes at the end of a base URL that is taken into
use. -/
inductive Act.SameButSlashes : Act → Act → Prop where
  | same (act : Act) : SameButSlashes act act
  | connect (name : String) (env : Environment) {c d : Config} : Fermioniq.SameButSlashes c d →
      SameButSlashes (.connect name env c) (.connect name env d)
  | resume (env : Environment) {h g : Handle} {c d : Config} : h.backend = g.backend →
      Fermioniq.SameButSlashes (Backend.resumption h c) (Backend.resumption g d) →
        SameButSlashes (.resume h env c) (.resume g env d)

/-- Two pasts with such acts at the same places and times, and with the same reports. -/
abbrev SamePast : Past Event Report → Past Event Report → Prop :=
  List.Forall₂ fun x y => x.1.place = y.1.place ∧ x.1.time = y.1.time ∧
    x.1.act.SameButSlashes y.1.act ∧ x.2 = y.2

theorem Act.SameButSlashes.submission? {act act' : Act} (same : act.SameButSlashes act')
    (s : Fermioniq.Session) :
    act.submission? Fermioniq.backend s = act'.submission? Fermioniq.backend s := by
  cases same with
  | same => rfl
  | connect => rfl
  | resume => rfl

theorem Act.SameButSlashes.follow {act act' : Act} (same : act.SameButSlashes act')
    (now : Instant) (line : Line Fermioniq.Session τ) :
    act.follow Fermioniq.backend registry net now line
      = act'.follow Fermioniq.backend registry net now line := by
  cases same with
  | same => rfl
  | connect name env configs => rw [Act.follow, Act.follow, configs.connectTo]
  | resume env owner configs =>
      rw [Act.follow, Act.follow, Backend.resume, Backend.resume, owner, configs.connectTo]

/-- What is done leads to the same state and the same report. -/
theorem step_eq {e e' : Event} (place : e.place = e'.place) (time : e.time = e'.time)
    (acts : e.act.SameButSlashes e'.act) (w : Places Fermioniq.Session τ) :
    step Fermioniq.backend registry net w e = step Fermioniq.backend registry net w e' := by
  unfold step
  rw [place, time, acts.follow, acts.submission?]

theorem run_of_samePast {start w : Places Fermioniq.Session τ} {past : Past Event Report}
    (run : Run (Steps (step Fermioniq.backend registry net)) start past w) :
    ∀ {past' : Past Event Report}, SamePast past past' →
      Run (Steps (step Fermioniq.backend registry net)) start past' w := by
  induction run with
  | start =>
      intro past' same
      cases same
      exact .start
  | step _ moved ih =>
      intro past' same
      -- The pasts are cut at their latest events, before which both have led to the same state.
      cases same with
      | @cons _ y _ _ latest earlier =>
          obtain ⟨e, reply⟩ := y
          obtain ⟨place, time, acts, rfl⟩ := latest
          refine .step (ih earlier) ?_
          exact (step_eq place time acts _).symm.trans moved

/-- However many slashes end a base URL and begin a path, there is one between them.

So a session with such a base URL in force, whatever else has happened to it, has the base URL
without the slashes, persists its configuration with that one, and sends every login, submission,
status request and request for results to the URL below it; and so does the login of the connection
itself.  Two configurations that differ in the slashes alone make the same settings or are refused
with the same fault, and any run of processes with the one is a run with the other, with the same
sessions and requests. -/
theorem same_urls_for_any_slashes {b : String} (clean : ¬ EndsInSlash b) :
    (∀ p, ¬ BeginsWithSlash p → p ≠ "" → ∀ m n,
      joinUrl (b ++ slashes m) (slashes n ++ p) = b ++ "/" ++ p) ∧
    (∀ (env : Environment) (c : Config) (m : Nat), c.get? "base_url" = some (b ++ slashes m) →
      (∀ past busy, Run Busy.Moves (Busy.idle .fresh) past busy →
        Busy.inForce past = some (env, c) → busy.session.AtBase b c) ∧
      ∀ (τ : Type) (net : Network τ) (now : Instant) (line : Line Fermioniq.Session τ),
        ∀ x ∈ (Fermioniq.backend.connect env c).exchanges net now line,
          x.request.url = b ++ "/api/login") ∧
    (∀ (env : Environment) (c d : Config), SameButSlashes c d →
      Settings.ofConfig env c = Settings.ofConfig env d) ∧
    ∀ (τ : Type) (registry : Registry Fermioniq.Session) (net : Network τ)
      (start w : Places Fermioniq.Session τ) (past past' : Past Event Report),
      Run (Steps (step Fermioniq.backend registry net)) start past w → SamePast past past' →
        Run (Steps (step Fermioniq.backend registry net)) start past' w := by
  refine ⟨fun p path notEmpty => joinUrl_slashes clean path notEmpty, ?_,
    fun env c d same => same.ofConfig, fun _ _ _ _ _ _ _ run same => run_of_samePast run same⟩
  intro env c m given
  exact ⟨fun past busy run force => Fermioniq.Session.atBase_of_run clean given run force,
    fun τ net now line => Fermioniq.Session.url_of_connect clean given⟩

/-- The same configuration without the slashes. -/
def plainUrl : Config := slashedUrl.insert "base_url" "https://q.test"

theorem slashedUrl_same_plainUrl : SameButSlashes slashedUrl plainUrl where
  base := ⟨"https://q.test", 2, 0, by decide, rfl, rfl⟩
  others := by
    intro key other
    unfold plainUrl
    rw [Dict.get?_insert, if_neg (Ne.symm other)]

/-- A job is submitted and polled in a session with the configuration. -/
def errand (c : Config) : List Event :=
  [.connect backendName .empty c, .submit [⟨"bell", "Q"⟩], .poll slashedJob].map (⟨0, ⟨0, 0, 0⟩, ·⟩)

/-- The past of the errand with these reports. -/
def errandPast (c : Config) (reports : List (Option Report)) : Past Event Report :=
  ((errand c).zip reports).reverse

/-- Two slashes at the end of the base URL make no difference. -/
theorem same_urls_for_two_slashes :
    ¬ EndsInSlash "https://q.test" ∧
      joinUrl "https://q.test//" "/api/login" = "https://q.test/api/login" ∧
      (∃ busy, Run Busy.Moves (Busy.idle .fresh) (Busy.notRenewed ++ Busy.connected) busy ∧
        busy.session.AtBase "https://q.test" slashedUrl) ∧
      ∃ reports w,
        Run (Steps (step Fermioniq.backend onlyFermioniq (.inOrder relayAnswers))) quiet
            (errandPast slashedUrl reports) w ∧
          Run (Steps (step Fermioniq.backend onlyFermioniq (.inOrder relayAnswers))) quiet
            (errandPast plainUrl reports) w ∧
          w.sent.map Request.url = ["https://q.test/api/login", "https://q.test/api/jobs",
            "https://q.test/api/jobs/j-1", "https://q.test/api/login",
            "https://q.test/api/jobs/j-1"] := by
  have clean : ¬ EndsInSlash "https://q.test" := by decide
  obtain ⟨joins, configured, _, runs⟩ := same_urls_for_any_slashes clean
  obtain ⟨busy, moved⟩ := Busy.run_notRenewed
  have atBase := (configured .empty slashedUrl 2 rfl).1 _ _ moved rfl
  obtain ⟨first, second, third, w, played, urls⟩ : ∃ first second third w,
      replay (step Fermioniq.backend onlyFermioniq (.inOrder relayAnswers)) (errand slashedUrl) []
          quiet = some (errandPast slashedUrl [first, second, third], w) ∧
        w.sent.map Request.url = ["https://q.test/api/login", "https://q.test/api/jobs",
          "https://q.test/api/jobs/j-1", "https://q.test/api/login",
          "https://q.test/api/jobs/j-1"] := ⟨_, _, _, _, rfl, rfl⟩
  have run := Run.of_replay (errand slashedUrl) .start played
  -- The connection alone is told something else.
  have same : SamePast (errandPast slashedUrl [first, second, third])
      (errandPast plainUrl [first, second, third]) :=
    .cons ⟨rfl, rfl, .same _, rfl⟩ (.cons ⟨rfl, rfl, .same _, rfl⟩
      (.cons ⟨rfl, rfl, .connect _ _ slashedUrl_same_plainUrl, rfl⟩ .nil))
  exact ⟨clean, joins "api/login" (by decide) (by decide) 2 1, ⟨busy, moved, atBase⟩, _, w, run,
    runs _ _ _ _ _ _ _ run same, urls⟩

end Traffic
end QuantumJobs

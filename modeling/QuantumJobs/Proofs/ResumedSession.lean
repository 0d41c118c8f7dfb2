import Mathlib.Data.List.DropRight
import QuantumJobs.Proofs.ResumedPolling
import QuantumJobs.Proofs.SecretFree
import QuantumJobs.Proofs.SharedFile

/-!
# ResumedSession — a job goes on in another process as it would have in the first

A handle keeps the configuration of its session without the credentials.  Whoever resumes the job
adds those again, and the settings that come of it are the settings of the first session: what was
left out is put back, and what was normalised stays as it is when it is normalised again.  Of two
sessions with the same settings only the tokens may differ, so both send the same requests but for
the header that carries the token.
-/

namespace QuantumJobs

/-- What has been cut off at the end is gone. -/
theorem Text.trimEndOf_trimEndOf (c : Char) (s : String) :
    trimEndOf c (trimEndOf c s) = trimEndOf c s := by
  unfold trimEndOf dropEndWhile
  rw [String.toList_ofList, List.reverse_reverse, List.dropWhile_idempotent]

/-! ## Polls one after another -/

namespace Backend

variable {σ τ : Type} (b : Backend σ)

/-- Polls at given times, between which nothing else is sent. -/
def pollAt (net : Network τ) (times : List Instant) (h : Handle) (line : Line σ τ) :
    List (Outcome Poll) × Handle × Line σ τ :=
  b.pollAll net (times.map fun now => (now, id)) h line

variable {b}

/-- The polls after a first one begin where it has led to. -/
theorem pollAt_cons {net : Network τ} {now : Instant} (times : List Instant) {h next : Handle}
    {line after : Line σ τ} {answer : Outcome Poll}
    (polled : (b.poll h).run net now line = ((answer, next), after)) :
    b.pollAt net (now :: times) h line
      = (answer :: (b.pollAt net times next after).1, (b.pollAt net times next after).2) := by
  simp only [pollAt, List.map_cons, pollAll, id, polled]

/-- What has been sent stays sent. -/
theorem sent_prefix_pollAt (net : Network τ) :
    ∀ (times : List Instant) (h : Handle) (line : Line σ τ),
      line.sent <+: (b.pollAt net times h line).2.2.sent := by
  intro times
  induction times with
  | nil =>
      intro h line
      exact List.prefix_refl _
  | cons now times ih =>
      intro h line
      have first := Dialogue.sent_prefix net now (b.poll h) line
      rcases polled : (b.poll h).run net now line with ⟨⟨answer, next⟩, after⟩
      rw [polled] at first
      rw [pollAt_cons times polled]
      exact first.trans (ih next after)

/-- If every poll is its own twin, so are any number of them. -/
theorem twins_pollAt {K : Kinship σ} (polls : ∀ h, Dialogue.Twins K Eq (b.poll h) (b.poll h))
    {mine yours : Nat → Outcome Json} :
    ∀ (times : List Instant) (h : Handle) {line line' : Line σ Nat}, line.Twins K line' →
      K.Answered (b.pollAt (.inOrder mine) times h line).2.2.sent mine yours →
        (b.pollAt (.inOrder mine) times h line).1 = (b.pollAt (.inOrder yours) times h line').1 ∧
          (b.pollAt (.inOrder mine) times h line).2.2.Twins K
            (b.pollAt (.inOrder yours) times h line').2.2 := by
  intro times
  induction times with
  | nil =>
      intro h line line' lines _
      exact ⟨rfl, lines⟩
  | cons now times ih =>
      intro h line line' lines answered
      rcases polled : (b.poll h).run (.inOrder mine) now line with ⟨⟨answer, next⟩, after⟩
      rcases polled' : (b.poll h).run (.inOrder yours) now line' with ⟨⟨answer', next'⟩, after'⟩
      rw [pollAt_cons times polled] at answered ⊢
      rw [pollAt_cons times polled']
      -- What the first poll was answered is among what all polls were answered.
      have first := answered.of_prefix (sent_prefix_pollAt (.inOrder mine) times next after)
      obtain ⟨same, lines⟩ := (polls h).run lines polled polled' first
      cases same
      obtain ⟨answers, last⟩ := ih next lines answered
      exact ⟨congrArg (List.cons answer) answers, last⟩

end Backend

namespace Fermioniq

/-! ## Settings -/

/-- The part of a configuration that is never persisted. -/
def credentials (c : Config) : Config := c.filterKeys fun key => secretKeys.contains key

namespace Settings

variable {env : Environment} {c d : Config} {a : Settings}

/-- Settings depend on what stands in the configuration, and on the base URL only as far as it is
normalised. -/
theorem ofConfig_congr (same : ∀ key, key ≠ "base_url" → c.get? key = d.get? key)
    (base : Text.trimEndOf '/' (Config.valueOr c "base_url" defaultBaseUrl)
      = Text.trimEndOf '/' (Config.valueOr d "base_url" defaultBaseUrl)) :
    ofConfig env c = ofConfig env d := by
  have persisted : ∀ url : String, (Config.without c secretKeys).insert "base_url" url
      = (Config.without d secretKeys).insert "base_url" url := by
    intro url
    apply Dict.ext_get?
    intro key
    unfold Config.without
    rw [Dict.get?_insert, Dict.get?_insert, Dict.get?_filterKeys, Dict.get?_filterKeys]
    by_cases here : "base_url" = key
    · rw [if_pos here, if_pos here]
    · rw [same key (Ne.symm here)]
  have bondDims : bondDimOf c = bondDimOf d := by
    unfold bondDimOf
    rw [same "bond_dim" (by decide)]
  unfold ofConfig
  simp only [Config.resolve, Config.lookup, same "access_token_id" (by decide),
    same "access_token_secret" (by decide), same "api_key" (by decide),
    same "user_agent" (by decide), same "remote_config" (by decide),
    same "noise_model" (by decide), same "project_id" (by decide), bondDims, base, persisted]

/-- The persisted part and the credentials together are the configuration with its base URL
normalised. -/
theorem get?_persisted_merge (valid : ofConfig env c = .ok a) (key : String) :
    (a.persisted.merge (credentials c)).get? key
      = if key = "base_url" then some a.baseUrl else c.get? key := by
  rw [(sourced_of_ofConfig valid).persisted]
  unfold credentials Config.without
  rw [Dict.get?_merge, Dict.get?_insert, Dict.get?_filterKeys, Dict.get?_filterKeys]
  -- The base URL is persisted as it was normalised, secrets come back with the credentials, and
  -- everything else is persisted as it was.
  by_cases base : key = "base_url"
  · subst base
    simp [secretKeys]
  · by_cases secret : key ∈ secretKeys
    · simp [base, Ne.symm base, secret]
    · simp [base, Ne.symm base, secret]

/-- The persisted part of a configuration and its credentials give the settings that the
configuration has given. -/
theorem ofConfig_persisted_merge (valid : ofConfig env c = .ok a) :
    ofConfig env (a.persisted.merge (credentials c)) = .ok a := by
  have base : Config.valueOr (a.persisted.merge (credentials c)) "base_url" defaultBaseUrl
      = Text.trimEndOf '/' (Config.valueOr c "base_url" defaultBaseUrl) := by
    rw [← (sourced_of_ofConfig valid).baseUrl]
    unfold Config.valueOr
    rw [get?_persisted_merge valid, if_pos rfl]
    rfl
  rw [← valid]
  apply ofConfig_congr
  · intro key other
    rw [get?_persisted_merge valid, if_neg other]
  · -- The base URL is normalised a second time.
    rw [base, Text.trimEndOf_trimEndOf]

end Settings

/-! ## Sessions -/

namespace Session

variable {τ : Type} {net : Network τ} {now : Instant}

theorem state_run_login (line : Line Session τ) : (login.run net now line).2.state = line.state := by
  simp only [login, Dialogue.run_bind, Dialogue.run_state]
  cases line.state.settings with
  | none => rfl
  | some a =>
      simp only [Dialogue.run_bind, Dialogue.run_request]
      cases (net.answer a.loginRequest line.wire).1 with
      | error fault => rfl
      | ok response => rfl

/-- A login changes nothing but the tokens. -/
theorem settings_run_refresh (line : Line Session τ) :
    (refresh.run net now line).2.state.settings = line.state.settings := by
  simp only [refresh, Dialogue.run_bind]
  show (login.run net now line).2.state.settings = _
  rw [state_run_login]

/-- A session into which a configuration has been taken has the settings of that configuration. -/
theorem settings_of_connect {env : Environment} {c : Config} {line line₁ : Line Session τ}
    (connected : (connect env c).run net now line = (.ok (), line₁)) :
    ∃ a, Settings.ofConfig env c = .ok a ∧ line₁.state.settings = some a := by
  unfold connect at connected
  cases valid : Settings.ofConfig env c with
  | error fault =>
      rw [valid] at connected
      cases connected
  | ok a =>
      rw [valid] at connected
      have after : (refresh.run net now { line with state := line.state.configure a }).2 = line₁ :=
        congrArg Prod.snd connected
      refine ⟨a, rfl, ?_⟩
      rw [← after, settings_run_refresh]
      rfl

theorem persisted_of_settings {s : Session} {a : Settings} (settings : s.settings = some a) :
    backend.persisted s = a.persisted := by
  show s.persisted = a.persisted
  unfold persisted
  rw [settings]

/-- What a session submits keeps what the session persists. -/
theorem config_of_submit {line line' : Line Session τ} {kernels : List Kernel} {h : Handle}
    {a : Settings} (settings : line.state.settings = some a)
    (submitted : (backend.submit kernels).run net now line = (.ok h, line')) :
    h.config = a.persisted := by
  obtain ⟨_, accepted⟩ := Handle.accepted_of_submit submitted
  rw [(Handle.of_accept accepted).2.2.1, persisted_of_settings settings]

/-- Sessions are connected alike if the same settings come of their configurations. -/
theorem connect_congr {env : Environment} {c d : Config}
    (same : Settings.ofConfig env c = Settings.ofConfig env d) : connect env c = connect env d := by
  unfold connect
  rw [same]

/-- A session that is resumed with the persisted part of a configuration and its credentials has the
settings of that configuration. -/
theorem settings_of_resume {registry : Registry Session} {env : Environment} {c : Config}
    {a : Settings} {h : Handle} {line line' : Line Session τ}
    (valid : Settings.ofConfig env c = .ok a) (keeps : h.config = a.persisted)
    (resumed : (backend.resume registry env h (credentials c)).run net now line = (.ok (), line')) :
    line'.state.settings = some a := by
  unfold Backend.resume Backend.connectTo Backend.resumption at resumed
  rw [keeps] at resumed
  cases created : registry.create h.backend with
  | error fault =>
      rw [created] at resumed
      cases resumed
  | ok blueprint =>
      rw [created] at resumed
      -- Whatever the blueprint is, it gets the settings of the configuration.
      have connected : (connect env (a.persisted.merge (credentials c))).run net now
          { line with state := blueprint } = (.ok (), line') := resumed
      obtain ⟨a', valid', settings⟩ := settings_of_connect connected
      obtain rfl : a = a' :=
        Except.ok.inj ((Settings.ofConfig_persisted_merge valid).symm.trans valid')
      exact settings

end Session

/-! ## Requests -/

/-- Requests that differ in nothing but the token that they carry. -/
structure SameButAuthorization (r q : Request) : Prop where
  method : r.method = q.method
  base : r.base = q.base
  path : r.path = q.path
  body : r.body = q.body
  headers : r.headers.erase "Authorization" = q.headers.erase "Authorization"

/-- How two runs may differ whose sessions have the same settings. -/
def sameSettings : Kinship Session where
  states s t := s.settings = t.settings
  requests := SameButAuthorization
  answers := SameButToken
  -- Both sessions have been connected before.
  configs _ _ := False

/-- The headers of a session without the token. -/
theorem Session.erase_headers (s : Session) :
    s.headers.erase "Authorization"
      = (s.settings.elim Dict.empty Settings.headers).erase "Authorization" := by
  unfold Session.headers
  cases s.settings with
  | none => rfl
  | some a =>
      cases s.tokens.text?.filter (· ≠ "") with
      | none => rfl
      | some token => exact Dict.erase_insert _ _ _

namespace SameSettings

open Dialogue (Twins)

variable {s t : Session}

theorem baseUrl (same : s.settings = t.settings) : s.baseUrl = t.baseUrl := by
  unfold Session.baseUrl
  rw [same]

theorem persisted (same : s.settings = t.settings) : s.persisted = t.persisted := by
  unfold Session.persisted
  rw [same]

theorem headers (same : s.settings = t.settings) :
    s.headers.erase "Authorization" = t.headers.erase "Authorization" := by
  rw [s.erase_headers, t.erase_headers, same]

theorem twins_refresh : Twins sameSettings Eq Session.refresh Session.refresh := by
  have logins : Twins sameSettings SameLogin Session.login Session.login := by
    refine twins_login_of (fun _ _ _ related => related) ?_
    intro s t kin
    have same : s.settings = t.settings := kin
    rw [same]
    cases t.settings with
    | none => exact .inl ⟨rfl, rfl⟩
    | some a => exact .inr ⟨a, a, rfl, rfl, rfl, rfl, rfl, rfl, rfl⟩
  refine logins.bind ?_
  intro mine yours same
  -- A login is noted among the tokens, which may differ anyway.
  refine .change (fun _ _ kin => kin) ?_
  intro s t _
  exact .done (record_answer s.tokens t.tokens same)

/-- The emulator to a client that submits nothing: only a submission asks who is logged in. -/
def pollable : Backend Session := { backend with payload := fun _ _ => .error noKernels }

theorem discreet_pollable : pollable.Discreet sameSettings where
  self _ := rfl
  name _ _ _ := rfl
  persisted _ _ kin := persisted kin
  jobOf _ _ _ := rfl
  statusPath _ _ _ := rfl
  resultsPath _ _ _ := rfl
  isDone _ _ _ := rfl
  interval _ _ _ := rfl
  results _ _ _ _ kin := ⟨rfl, kin⟩
  gets s t path kin := by
    refine ⟨⟨rfl, baseUrl kin, rfl, rfl, headers kin⟩, ?_⟩
    intro a c related
    exact related.eq (not_isLogin_get _ _ _)
  -- Both refuse, whoever is logged in.
  posts _ _ _ _ := .inl ⟨_, rfl, rfl⟩
  refresh := twins_refresh
  connect _ _ _ _ never := never.elim
  overlay _ _ _ never := never.elim

theorem poll (h : Handle) : Twins sameSettings Eq (backend.poll h) (backend.poll h) :=
  discreet_pollable.poll h

end SameSettings
/-! ## Resumed jobs -/

/-- Two handles are polled alike, one in one session and the other in another: if they are answered
alike but for the tokens of logins, the polls come to the same answers, and the requests that are
sent differ in nothing but the token that they carry. -/
def PolledAlike (h g : Handle) (s t : Session) : Prop :=
  ∀ (times : List Instant) (mine yours : Nat → Outcome Json),
    (∀ i r, (backend.pollAt (.inOrder mine) times h ⟨s, 0, []⟩).2.2.sent[i]? = some r →
      SameButToken r (mine i) (yours i)) →
      (backend.pollAt (.inOrder mine) times h ⟨s, 0, []⟩).1
          = (backend.pollAt (.inOrder yours) times g ⟨t, 0, []⟩).1 ∧
        List.Forall₂ SameButAuthorization
          (backend.pollAt (.inOrder mine) times h ⟨s, 0, []⟩).2.2.sent
          (backend.pollAt (.inOrder yours) times g ⟨t, 0, []⟩).2.2.sent

theorem polledAlike_of_alike {h g : Handle} (alike : h.Alike g) {s t : Session}
    (same : s.settings = t.settings) : PolledAlike h g s t := by
  intro times mine yours answered
  have lines : Line.Twins sameSettings (⟨s, 0, []⟩ : Line Session Nat) ⟨t, 0, []⟩ :=
    ⟨same, .nil, rfl, rfl⟩
  -- First the same handle in both sessions, then both handles in the second.
  obtain ⟨answers, last⟩ := Backend.twins_pollAt SameSettings.poll times h lines answered
  obtain ⟨answers', _, last'⟩ :=
    Handle.Alike.pollAll backend (.inOrder yours) (times.map fun now => (now, id)) ⟨t, 0, []⟩ alike
  refine ⟨answers.trans answers', ?_⟩
  have sent := last.sent
  unfold Backend.pollAt at sent ⊢
  rwa [last'] at sent

/-- A handle has been saved in a file and loaded from there. -/
def Reloaded (h g : Handle) : Prop :=
  ∃ t t' p, h.save t p = .ok t' ∧ Handle.load t' p = .ok g

/-- Take a session into which a configuration has been taken, and add the credentials of that
configuration to what the session persists.  In the same environment that gives the settings of the
session, and connecting with it is connecting with the configuration.  Handles that a session with
these settings submits keep what it persists.  If such a handle is saved, loaded and resumed with
the credentials, the session that comes of it has the same settings and persists the same, and what
was loaded is polled there as the handle is in any session that has these settings.  If the handle
keeps a message, it is asked that the numbers in it are read back from their own texts. -/
theorem resume_of_connected {τ : Type} {env : Environment} {c : Config} {net : Network τ}
    {now : Instant} {line line₁ : Line Session τ}
    (connected : (backend.connect env c).run net now line = (.ok (), line₁)) :
    ∃ a, Settings.ofConfig env c = .ok a ∧ line₁.state.settings = some a ∧
      Settings.ofConfig env ((backend.persisted line₁.state).merge (credentials c)) = .ok a ∧
      backend.connect env ((backend.persisted line₁.state).merge (credentials c))
        = backend.connect env c ∧
      (∀ {τ' : Type} {net' : Network τ'} {now' : Instant} {line₂ line₃ : Line Session τ'}
        {kernels : List Kernel} {h : Handle}, line₂.state.settings = some a →
          (backend.submit kernels).run net' now' line₂ = (.ok h, line₃) →
            h.config = backend.persisted line₁.state) ∧
      ∀ {h g : Handle}, h.config = backend.persisted line₁.state → h.Fits →
        (∀ v, h.kept? = some v → v.Legible) → Reloaded h g →
          ∀ {τ' : Type} {registry : Registry Session} {net' : Network τ'} {now' : Instant}
            {line₂ line₃ : Line Session τ'},
            (backend.resume registry env g (credentials c)).run net' now' line₂ = (.ok (), line₃) →
              line₃.state.settings = some a ∧
                backend.persisted line₃.state = backend.persisted line₁.state ∧
                ∀ s : Session, s.settings = some a → PolledAlike h g s line₃.state := by
  obtain ⟨a, valid, settings⟩ := Session.settings_of_connect connected
  have again := Settings.ofConfig_persisted_merge valid
  rw [Session.persisted_of_settings settings]
  refine ⟨a, valid, settings, again, Session.connect_congr (again.trans valid.symm), ?_, ?_⟩
  · intro τ' net' now' line₂ line₃ kernels h same submitted
    exact Session.config_of_submit same submitted
  · intro h g keeps fits kept ⟨t, t', p, saved, loaded⟩ τ' registry net' now' line₂ line₃ resumed
    obtain rfl := Handle.eq_restored_of_load fits kept saved loaded
    -- The copy keeps the same configuration.
    have settings' := Session.settings_of_resume valid keeps resumed
    refine ⟨settings', Session.persisted_of_settings settings', ?_⟩
    intro s same
    exact polledAlike_of_alike h.alike_restored (same.trans settings'.symm)

/-- A configuration with a base URL that is not normalised. -/
def slashedUrl : Config :=
  Dict.ofList [("access_token_id", "i"), ("access_token_secret", "s"), ("api_key", "k"),
    ("base_url", "https://q.test//"), ("bond_dim", "8")]

/-- A message that is an answer to a login and to a submission. -/
def welcome (token : String) : Json :=
  .obj [("id", .str "j-1"), ("jwt_token", .str token), ("user_id", .str "u")]

/-- A line on which the configuration has been taken into use. -/
def slashedLine (token : String) : Line Session Unit :=
  ((backend.connect .empty slashedUrl).run (SharedFile.saying (welcome token)) ⟨0, 0, 0⟩
    ⟨.fresh, (), []⟩).2

/-- The job that is submitted then. -/
def slashedJob : Handle :=
  { acceptedJob with config := backend.persisted (slashedLine "first").state }

theorem run_slashedJob :
    ((backend.submit [⟨"bell", "Q"⟩]).run (SharedFile.saying (welcome "first")) ⟨0, 0, 0⟩
      (slashedLine "first")).1 = .ok slashedJob := by
  rfl

theorem fits_slashedJob : slashedJob.Fits where
  submittedAt := SharedFile.fits_acceptedJob.submittedAt
  outcome := SharedFile.fits_acceptedJob.outcome

theorem reloaded_slashedJob : Reloaded slashedJob slashedJob :=
  ⟨_, _, "job.json", SharedFile.save_folder slashedJob slashedJob,
    SharedFile.load_folder fits_slashedJob rfl⟩

def onlyFermioniq : Registry Session := Dict.ofList [(backendName, .fresh)]

/-- The job is resumed in a session that has logged in again. -/
theorem resume_of_slashedUrl :
    Reloaded slashedJob slashedJob ∧
      (backend.resume onlyFermioniq .empty slashedJob (credentials slashedUrl)).run
          (SharedFile.saying (welcome "second")) ⟨0, 0, 0⟩ ⟨.fresh, (), []⟩
        = (.ok (), slashedLine "second") ∧
      PolledAlike slashedJob slashedJob (slashedLine "first").state
        (slashedLine "second").state := by
  have connected : (backend.connect .empty slashedUrl).run (SharedFile.saying (welcome "first"))
      ⟨0, 0, 0⟩ ⟨.fresh, (), []⟩ = (.ok (), slashedLine "first") := Prod.ext rfl rfl
  have reconnected : (backend.connect .empty slashedUrl).run
      (SharedFile.saying (welcome "second")) ⟨0, 0, 0⟩ ⟨.fresh, (), []⟩
      = (.ok (), slashedLine "second") := Prod.ext rfl rfl
  obtain ⟨a, _, settings, _, connects, submits, resumes⟩ := resume_of_connected connected
  have keeps := submits settings (Prod.ext run_slashedJob rfl)
  have noMessage : ∀ v, slashedJob.kept? = some v → v.Legible := by
    intro v kept
    cases kept
  -- Resuming is connecting once more.
  have resumed : (backend.resume onlyFermioniq .empty slashedJob (credentials slashedUrl)).run
      (SharedFile.saying (welcome "second")) ⟨0, 0, 0⟩ ⟨.fresh, (), []⟩
      = (.ok (), slashedLine "second") := by
    rw [← reconnected, ← connects]
    rfl
  obtain ⟨_, _, alike⟩ := resumes keeps fits_slashedJob noMessage reloaded_slashedJob resumed
  exact ⟨reloaded_slashedJob, resumed, alike (slashedLine "first").state settings⟩

end Fermioniq
end QuantumJobs

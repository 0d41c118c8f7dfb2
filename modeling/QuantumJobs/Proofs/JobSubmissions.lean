import QuantumJobs.Proofs.ConnectChecks

/-!
# JobSubmissions — what a submission says, and what becomes of its answer

A session that is logged in submits all kernels in one request.  The body lists their codes and
their names, both as they are and in the same order, and names the user; whatever else it says is
configured.  The answer decides: a fault is passed on, an answer that names a job gives a handle of
that job, and any other answer is malformed.
-/

namespace QuantumJobs

/-! ## Objects made of fields -/

namespace Json

/-- What is found among fields under a key, or else what was found before; the last one wins. -/
def lastFound (key : String) (before : Option Json) (fields : List (String × Json)) : Option Json :=
  fields.foldl (fun found f => if f.1 = key then some f.2 else found) before

theorem find?_foldl_insert (key : String) :
    ∀ (fields es : List (String × Json)),
      Entries.find? (fields.foldl (fun es f => Entries.insert f.1 f.2 es) es) key
        = lastFound key (Entries.find? es key) fields := by
  intro fields
  induction fields with
  | nil => exact fun _ => rfl
  | cons f fields ih =>
      intro es
      rw [List.foldl_cons, ih, Entries.find?_insert]
      rfl

theorem get?_ofFields (fields : List (String × Json)) (key : String) :
    (ofFields fields).get? key = lastFound key none fields :=
  find?_foldl_insert key fields []

theorem lastFound_append (key : String) (before : Option Json)
    (first second : List (String × Json)) :
    lastFound key before (first ++ second) = lastFound key (lastFound key before first) second :=
  List.foldl_append

end Json

/-! ## Submissions -/

namespace Backend

variable {σ τ : Type} {b : Backend σ} {net : Network τ} {now : Instant} {line : Line σ τ}
  {kernels : List Kernel} {p : Payload}

/-- A submission that can be phrased is one request. -/
theorem exchanges_submit (some : kernels ≠ []) (phrased : b.payload line.state kernels = .ok p) :
    (b.submit kernels).exchanges net now line
      = [⟨.post (b.baseUrl line.state) p.path p.headers p.body,
          (net.answer (.post (b.baseUrl line.state) p.path p.headers p.body) line.wire).1⟩] := by
  have notEmpty : kernels.isEmpty = false := List.isEmpty_eq_false_iff.2 some
  cases answered : (net.answer (.post (b.baseUrl line.state) p.path p.headers p.body)
      line.wire).1 <;>
    simp [submit, notEmpty, phrased, answered]

/-- A submission that cannot be phrased is not sent. -/
theorem exchanges_submit_of_error {fault : Fault}
    (refused : b.payload line.state kernels = .error fault) :
    (b.submit kernels).exchanges net now line = [] := by
  unfold submit
  by_cases none : kernels.isEmpty = true
  · rw [if_pos none]
    rfl
  · simp [none, refused]

/-- Whatever a submission sends has been phrased. -/
theorem phrased_of_sent {x : Exchange} (sent : x ∈ (b.submit kernels).exchanges net now line) :
    ∃ p, b.payload line.state kernels = .ok p ∧
      x.request = .post (b.baseUrl line.state) p.path p.headers p.body := by
  rcases eq_or_ne kernels [] with rfl | some
  · cases sent
  cases phrased : b.payload line.state kernels with
  | error fault =>
      rw [exchanges_submit_of_error phrased] at sent
      cases sent
  | ok p =>
      rw [exchanges_submit some phrased] at sent
      cases List.mem_singleton.1 sent
      exact ⟨p, rfl, rfl⟩

/-- What the request is answered is taken for the acceptance of a job, or passed on. -/
theorem run_submit_of_phrased (some : kernels ≠ [])
    (phrased : b.payload line.state kernels = .ok p) :
    ((b.submit kernels).run net now line).1
      = ((net.answer (.post (b.baseUrl line.state) p.path p.headers p.body) line.wire).1 >>=
          fun response => b.accept line.state kernels response now) := by
  have notEmpty : kernels.isEmpty = false := List.isEmpty_eq_false_iff.2 some
  cases answered : (net.answer (.post (b.baseUrl line.state) p.path p.headers p.body)
      line.wire).1 with
  | error fault =>
      simp only [submit, notEmpty, Bool.false_eq_true, if_false, Dialogue.run_bind,
        Dialogue.run_state, phrased, Dialogue.run_request, answered]
      rfl
  | ok response =>
      simp only [submit, notEmpty, Bool.false_eq_true, if_false, Dialogue.run_bind,
        Dialogue.run_state, phrased, Dialogue.run_request, answered]
      rfl

end Backend

namespace Fermioniq
namespace Session

/-! ## What is sent -/

/-- The session uses a configuration and holds a token that was issued to the user. -/
structure LoggedIn (s : Session) (env : Environment) (c : Config) (user : String) : Prop where
  uses : s.Uses env c
  holds : ∃ text, s.Holds text user

/-- The body of a submission: the kernels, the user, and what is configured. -/
structure Describes (body : Json) (c : Config) (user : String) (kernels : List Kernel) : Prop where
  codes : body.get? "circuit" = some (.arr (kernels.map fun k => .str k.code))
  names : body.get? "circuit_names" = some (.arr (kernels.map fun k => .str k.name))
  user : body.get? "user_id" = some (.str user)
  remoteConfig : body.get? "remote_config" = (c.get? "remote_config").map .str
  noiseModel : body.get? "noise_model" = (c.get? "noise_model").map .str
  project : body.get? "project_id" = (c.get? "project_id").map .str
  /-- The bond dimension is the number that the configured text reads as. -/
  emulator : body.get? "emulator_config"
    = ((c.get? "bond_dim").bind Settings.bondDim?).map fun n : Nat => .obj [("bond_dim", .int n)]
  nothingElse : ∀ key, body.get? key ≠ none →
    key ∈ ["circuit", "circuit_names", "user_id", "remote_config", "noise_model", "project_id",
      "emulator_config"]

theorem lastFound_optionalField (key name : String) (before value : Option Json) :
    Json.lastFound key before (optionalField name value)
      = if name = key then value.or before else before := by
  cases value <;> simp [Json.lastFound, optionalField]

theorem lastFound_parts (key : String) :
    ∀ {parts : List (String × Option Json)} (before : Option Json), (parts.map (·.1)).Nodup →
      Json.lastFound key before (parts.flatMap fun p => optionalField p.1 p.2)
        = (Entries.find? parts key).join.or before := by
  intro parts
  induction parts with
  | nil => exact fun _ _ => rfl
  | cons p parts ih =>
      intro before distinct
      obtain ⟨name, value⟩ := p
      obtain ⟨once, later⟩ := List.nodup_cons.1 distinct
      rw [List.flatMap_cons, Json.lastFound_append, lastFound_optionalField, ih _ later]
      by_cases here : name = key
      · -- The name does not come again.
        have absent : Entries.find? parts key = none := by
          apply Entries.find?_eq_none
          intro e inRest same
          exact once (List.mem_map.2 ⟨e, inRest, same.trans here.symm⟩)
        simp [absent, here, Entries.find?]
      · simp [here, Entries.find?]

/-- In an object whose parts have different names, each part that is set is found under its name. -/
theorem get?_ofParts {parts : List (String × Option Json)} (distinct : (parts.map (·.1)).Nodup)
    (key : String) :
    (Json.ofFields (parts.flatMap fun p => optionalField p.1 p.2)).get? key
      = (Entries.find? parts key).join := by
  rw [Json.get?_ofFields, lastFound_parts key none distinct, Option.or_none]

/-- The parts of a body: three that it always has, and what is configured. -/
def bodyParts (a : Settings) (user : String) (kernels : List Kernel) :
    List (String × Option Json) :=
  [("circuit", some (.arr (kernels.map fun k => .str k.code))),
    ("circuit_names", some (.arr (kernels.map fun k => .str k.name))),
    ("user_id", some (.str user)),
    ("remote_config", a.remoteConfig.map .str),
    ("noise_model", a.noiseModel.map .str),
    ("project_id", a.project.map .str),
    ("emulator_config", a.bondDim.map fun n : Nat => .obj [("bond_dim", .int n)])]

theorem get?_jobBody (a : Settings) (user : String) (kernels : List Kernel) (key : String) :
    (jobBody a user kernels).get? key = (Entries.find? (bodyParts a user kernels) key).join := by
  have parts : jobBody a user kernels = Json.ofFields
      ((bodyParts a user kernels).flatMap fun p => optionalField p.1 p.2) := by
    cases dimension : a.bondDim <;> simp [jobBody, bodyParts, optionalField, dimension]
  have distinct : ((bodyParts a user kernels).map (·.1)).Nodup := by
    show ["circuit", "circuit_names", "user_id", "remote_config", "noise_model", "project_id",
      "emulator_config"].Nodup
    decide
  rw [parts, get?_ofParts distinct]

/-- The bond dimension of valid settings is what the configuration gives, if it gives one. -/
theorem of_bondDimOf {c : Config} {n : Option Nat} (read : Settings.bondDimOf c = .ok n) :
    n = (c.get? "bond_dim").bind Settings.bondDim? := by
  unfold Settings.bondDimOf at read
  cases given : c.get? "bond_dim" with
  | none =>
      rw [given] at read
      cases read
      rfl
  | some raw =>
      rw [given] at read
      cases number : Settings.bondDim? raw with
      | none =>
          simp only [number] at read
          cases read
      | some k =>
          simp only [number] at read
          cases read
          exact number.symm

theorem describes_jobBody {env : Environment} {c : Config} {a : Settings}
    (valid : Settings.ofConfig env c = .ok a) (user : String) (kernels : List Kernel) :
    Describes (jobBody a user kernels) c user kernels := by
  have sourced := Settings.sourced_of_ofConfig valid
  refine ⟨?_, ?_, ?_, ?_, ?_, ?_, ?_, ?_⟩
  · exact get?_jobBody ..
  · exact get?_jobBody ..
  · exact get?_jobBody ..
  · rw [← sourced.remoteConfig]
    exact get?_jobBody ..
  · rw [← sourced.noiseModel]
    exact get?_jobBody ..
  · rw [← sourced.project]
    exact get?_jobBody ..
  · rw [← of_bondDimOf sourced.bondDim]
    exact get?_jobBody ..
  · intro key found
    rw [get?_jobBody] at found
    cases part : Entries.find? (bodyParts _ user kernels) key with
    | none =>
        rw [part] at found
        exact absurd rfl found
    | some value =>
        have listed : key ∈ (bodyParts _ user kernels).map (·.1) :=
          List.mem_map.2 ⟨_, Entries.mem_of_find? part, rfl⟩
        exact listed

/-- The request that submits kernels for a session. -/
structure Posts (s : Session) (c : Config) (user : String) (kernels : List Kernel) (r : Request) :
    Prop where
  method : r.method = .post
  base : r.base = s.baseUrl
  path : r.path = "/api/jobs"
  headers : r.headers = s.headers
  body : Describes r.body c user kernels

/-- A session that is logged in can phrase every submission. -/
theorem payload_of_loggedIn {s : Session} {env : Environment} {c : Config} {user : String}
    (loggedIn : s.LoggedIn env c user) (kernels : List Kernel) :
    ∃ p, s.payload kernels = .ok p ∧
      Posts s c user kernels (.post s.baseUrl p.path p.headers p.body) := by
  obtain ⟨a, valid, settings⟩ := loggedIn.uses.settings
  obtain ⟨text, t, current, _, whose⟩ := loggedIn.holds
  have user : s.tokens.user? = some user := by
    unfold TokenCache.user?
    rw [current]
    exact whose
  refine ⟨⟨jobsPath, s.headers, jobBody a _ kernels⟩, ?_, rfl, rfl, rfl, rfl,
    describes_jobBody valid _ kernels⟩
  unfold payload
  simp only [settings, user]

/-! ## What becomes of the answer -/

/-- The pending handle of a job that a session has submitted. -/
structure Opens (s : Session) (kernels : List Kernel) (job : String) (h : Handle) : Prop where
  pending : h.outcome = none
  backend : h.backend = backendName
  statusPath : h.statusPath = "/api/jobs/" ++ job
  job : h.job = job
  kernels : h.kernels = kernels.map (·.name)
  config : h.config = s.persisted

/-- How a submission ends, by the answer to its request. -/
inductive Ends (s : Session) (kernels : List Kernel) : Outcome Json → Outcome Handle → Prop where
  | failed (fault : Fault) : Ends s kernels (.error fault) (.error fault)
  | accepted {m : Json} {job : String} {h : Handle} : m.get? "id" = some (.str job) → job ≠ "" →
      Opens s kernels job h → Ends s kernels (.ok m) (.ok h)
  | unnamed {m : Json} : (∀ job, m.get? "id" = some (.str job) → job = "") →
      Ends s kernels (.ok m)
        (.error (.malformedResponse "submission response has no 'id' string" m))

theorem filter_id_eq_some {m : Json} {job : String} :
    ((m.get? "id").bind Json.asString?).filter (· ≠ "") = some job ↔
      m.get? "id" = some (.str job) ∧ job ≠ "" := by
  rw [Option.filter_eq_some_iff, Option.bind_eq_some_iff, decide_eq_true_iff]
  constructor
  · rintro ⟨⟨v, found, text⟩, notEmpty⟩
    cases v with
    | str s =>
        cases text
        exact ⟨found, notEmpty⟩
    | _ => cases text
  · rintro ⟨found, notEmpty⟩
    exact ⟨⟨_, found, rfl⟩, notEmpty⟩

theorem ends_accept (s : Session) (kernels : List Kernel) (answer : Outcome Json) (now : Instant) :
    Ends s kernels answer
      (answer >>= fun response => backend.accept s kernels response now) := by
  cases answer with
  | error fault => exact .failed fault
  | ok m =>
      show Ends s kernels (.ok m) (backend.accept s kernels m now)
      have jobOf : backend.jobOf s m = Session.jobOf m := rfl
      unfold Backend.accept
      rw [jobOf, Session.jobOf]
      cases named : ((m.get? "id").bind Json.asString?).filter (· ≠ "") with
      | some job =>
          obtain ⟨found, notEmpty⟩ := filter_id_eq_some.1 named
          exact .accepted found notEmpty ⟨rfl, rfl, rfl, rfl, rfl, rfl⟩
      | none =>
          refine .unnamed ?_
          intro job found
          by_contra notEmpty
          rw [filter_id_eq_some.2 ⟨found, notEmpty⟩] at named
          cases named

/-- What a session that is logged in makes of any list of kernels, on any network.  No kernels are
refused, and nothing is sent.  Otherwise the session sends exactly one request, a POST to the path
of jobs.  Its body has the codes and the names of the kernels as they are and in order, the user of
the current login, and every optional part that is configured, and no other.  A fault of the network
is passed on.  An answer that names a job gives the pending handle of that job, with the names of
the kernels in order and the configuration that the session persists.  Any other answer is
malformed, and kept. -/
theorem kernels_travel_in_one_request {τ : Type} (net : Network τ) (now : Instant)
    {env : Environment} {c : Config} {user : String} {line : Line Session τ}
    (loggedIn : line.state.LoggedIn env c user) (kernels : List Kernel) :
    (kernels = [] →
        (backend.submit kernels).run net now line
            = (.error (.invalidState "no kernel executions to submit"), line) ∧
          (backend.submit kernels).exchanges net now line = []) ∧
      (kernels ≠ [] →
        ∃ x, (backend.submit kernels).exchanges net now line = [x] ∧
          Posts line.state c user kernels x.request ∧
          Ends line.state kernels x.answer
            ((backend.submit kernels).run net now line).1) := by
  constructor
  · rintro rfl
    exact ⟨rfl, rfl⟩
  · intro some
    obtain ⟨p, phrased, posts⟩ := payload_of_loggedIn loggedIn kernels
    refine ⟨_, Backend.exchanges_submit some phrased, posts, ?_⟩
    rw [Backend.run_submit_of_phrased some phrased]
    exact ends_accept line.state kernels _ now

/-- A session that has taken a configuration into use is logged in. -/
theorem loggedIn_of_connect {τ : Type} {net : Network τ} {now : Instant} {env : Environment}
    {c : Config} {line line' : Line Session τ}
    (connected : (backend.connect env c).run net now line = (.ok (), line')) :
    ∃ user, line'.state.LoggedIn env c user := by
  obtain ⟨a, valid, _⟩ := settings_of_connect connected
  have settled : Settled env c (net.answer a.loginRequest line.wire).1
      ((backend.connect env c).run net now line).2.state
      ((backend.connect env c).run net now line).1 := settled_connect valid
  rw [connected] at settled
  obtain ⟨text, user, grants⟩ := settled.succeeds.1 rfl
  exact ⟨user, settled.uses, text, (settled.holds text user).2 grants⟩

/-- Two kernels, of which the second has no name. -/
def twoKernels : List Kernel := [⟨"bell", "h q[0];"⟩, ⟨"", " x q[1];\n"⟩]

/-- Two kernels are submitted in the session of a login. -/
theorem twoKernels_travel :
    (slashedLine "first").state.LoggedIn .empty slashedUrl "u" ∧ twoKernels ≠ [] ∧
      ∃ x, (backend.submit twoKernels).exchanges (SharedFile.saying (welcome "first")) ⟨0, 0, 0⟩
          (slashedLine "first") = [x] ∧
        Posts (slashedLine "first").state slashedUrl "u" twoKernels x.request ∧
        Ends (slashedLine "first").state twoKernels x.answer
          ((backend.submit twoKernels).run (SharedFile.saying (welcome "first")) ⟨0, 0, 0⟩
            (slashedLine "first")).1 := by
  have connected : (backend.connect .empty slashedUrl).run (SharedFile.saying (welcome "first"))
      ⟨0, 0, 0⟩ ⟨.fresh, (), []⟩ = (.ok (), slashedLine "first") := Prod.ext rfl rfl
  obtain ⟨user, uses, text, t, current, held, whose⟩ := loggedIn_of_connect connected
  cases current
  cases whose
  have loggedIn : (slashedLine "first").state.LoggedIn .empty slashedUrl "u" :=
    ⟨uses, text, _, rfl, held, rfl⟩
  have some : twoKernels ≠ [] := List.cons_ne_nil _ _
  exact ⟨loggedIn, some, (kernels_travel_in_one_request (SharedFile.saying (welcome "first"))
    ⟨0, 0, 0⟩ loggedIn twoKernels).2 some⟩

end Session
end Fermioniq
end QuantumJobs

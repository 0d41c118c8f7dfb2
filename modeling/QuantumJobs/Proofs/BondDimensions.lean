import QuantumJobs.Proofs.SessionHeaders
import QuantumJobs.Proofs.TrimmedText

/-!
# BondDimensions — from a configured text to the number that is sent

A bond dimension is configured as a text.  Which texts are accepted is a matter of their form alone:
white space around them does not count, and what is left is a decimal number of thirty-two bits
other than zero, with or without a plus sign.  The number that such a text stands for is the one
that every submission carries.  Any other text ends the connection before anything is sent.
-/

namespace QuantumJobs

namespace Fermioniq

/-! ## Texts that are accepted -/

/-- The text stands for a bond dimension. -/
structure Dimension (raw : String) (n : Nat) : Prop where
  written : ∃ core, Text.Pads raw.toList core ∧ Text.Natural core n
  positive : 1 ≤ n
  bounded : n ≤ 4294967295

theorem bondDim?_eq_some {raw : String} {n : Nat} :
    Settings.bondDim? raw = some n ↔ Dimension raw n := by
  have inside : (decide (0 < n) && decide (n ≤ Settings.maxBondDim)) = true
      ↔ 1 ≤ n ∧ n ≤ 4294967295 := by
    rw [Bool.and_eq_true, decide_eq_true_iff, decide_eq_true_iff]
    rfl
  rw [Settings.bondDim?, Option.filter_eq_some_iff, inside, Text.natural?_eq_some]
  constructor
  · rintro ⟨number, positive, bounded⟩
    exact ⟨⟨_, Text.pads_trimChars _, number⟩, positive, bounded⟩
  · rintro ⟨⟨core, pads, number⟩, positive, bounded⟩
    rw [Text.trimChars_of_natural pads number]
    exact ⟨number, positive, bounded⟩

theorem bondDim?_eq_none {raw : String} :
    Settings.bondDim? raw = none ↔ ∀ n, ¬ Dimension raw n := by
  simp [← bondDim?_eq_some, Option.eq_none_iff_forall_ne_some]

variable {env : Environment} {c : Config} {id secret : String}

/-- Of a configuration with both halves of the access token only the bond dimension can be wrong. -/
theorem exists_ofConfig (access : GivesAccess env c id secret)
    (sound : ∀ raw, c.get? "bond_dim" = some raw → ∃ n, Dimension raw n) :
    ∃ a, Settings.ofConfig env c = .ok a := by
  cases valid : Settings.ofConfig env c with
  | ok a => exact ⟨a, rfl⟩
  | error fault =>
      cases ofConfig_eq_error.1 valid with
      | accessId missing => exact absurd access.id (missing id)
      | accessSecret _ missing => exact absurd access.secret (missing secret)
      | bondDim _ given invalid =>
          obtain ⟨n, dimension⟩ := sound _ given
          exact absurd dimension (bondDim?_eq_none.1 invalid n)

namespace Session

/-! ## What is sent -/

/-- What a configuration has for the emulator. -/
def emulatorOf (c : Config) : Option Json :=
  ((c.get? "bond_dim").bind Settings.bondDim?).map fun n : Nat => .obj [("bond_dim", .int n)]

theorem emulatorOf_of_dimension {raw : String} {n : Nat} (given : c.get? "bond_dim" = some raw)
    (dimension : Dimension raw n) : emulatorOf c = some (.obj [("bond_dim", .int n)]) := by
  rw [emulatorOf, given, Option.bind_some, bondDim?_eq_some.2 dimension]
  rfl

theorem emulatorOf_of_absent (absent : c.get? "bond_dim" = none) : emulatorOf c = none := by
  rw [emulatorOf, absent]
  rfl

/-- Every submission that is sent from the session has this for the emulator. -/
def SubmitsWith (s : Session) (emulator : Option Json) : Prop :=
  ∀ (τ : Type) (net : Network τ) (now : Instant) (line : Line Session τ) (kernels : List Kernel),
    line.state = s → ∀ x ∈ (backend.submit kernels).exchanges net now line,
      x.request.body.get? "emulator_config" = emulator

theorem submitsWith_of_settings {s : Session} {a : Settings}
    (valid : Settings.ofConfig env c = .ok a) (settings : s.settings = some a) :
    s.SubmitsWith (emulatorOf c) := by
  rintro τ net now line kernels rfl x sent
  obtain ⟨p, phrased, request⟩ := Backend.phrased_of_sent sent
  obtain ⟨a', user, settings', _, rfl⟩ := of_payload phrased
  cases settings.symm.trans settings'
  rw [request]
  exact (describes_jobBody valid user kernels).emulator

/-- The configuration is accepted, with this for the emulator. -/
structure Accepts (env : Environment) (c : Config) (emulator : Option Json) : Prop where
  /-- A connection sends its login and succeeds if the login is granted. -/
  logsIn : ∀ (τ : Type) (net : Network τ) (now : Instant) (line : Line Session τ),
    ∃ x, (backend.connect env c).exchanges net now line = [x] ∧ LoginFor env c x.request ∧
      Settled env c x.answer ((backend.connect env c).run net now line).2.state
        ((backend.connect env c).run net now line).1
  /-- Then each submission is one request. -/
  submits : ∀ (τ : Type) (net net' : Network τ) (now now' : Instant) (line line' : Line Session τ),
    (backend.connect env c).run net now line = (.ok (), line') →
      ∀ kernels, kernels ≠ [] →
        ∃ x, (backend.submit kernels).exchanges net' now' line' = [x] ∧
          x.request.body.get? "emulator_config" = emulator
  /-- Whatever else happens to the session, while the configuration is in force. -/
  lasts : ∀ past b, Run Busy.Moves (Busy.idle fresh) past b →
    Busy.inForce past = some (env, c) → b.session.SubmitsWith emulator

theorem accepts_of_ofConfig {a : Settings} (valid : Settings.ofConfig env c = .ok a) :
    Accepts env c (emulatorOf c) where
  logsIn _ net now line :=
    ⟨_, exchanges_connect net now line valid, loginFor_of_ofConfig valid, settled_connect valid⟩
  submits := by
    intro τ net net' now now' line line' connected kernels some
    obtain ⟨user, loggedIn⟩ := loggedIn_of_connect connected
    obtain ⟨p, phrased, posts⟩ := payload_of_loggedIn loggedIn kernels
    exact ⟨_, Backend.exchanges_submit some phrased, posts.body.emulator⟩
  lasts := by
    intro past b run force
    -- The session has the settings of the configuration in force, whoever renews its token.
    obtain ⟨a', valid', settings⟩ : Busy.Brings (some (env, c)) b.session.settings :=
      force ▸ (Busy.agrees_of_run run).settings
    exact submitsWith_of_settings valid' settings

/-- A connection fails with the fault; nothing is sent, and all is as it was. -/
def Refuses (env : Environment) (c : Config) (fault : Fault) : Prop :=
  ∀ (τ : Type) (net : Network τ) (now : Instant) (line : Line Session τ),
    (backend.connect env c).run net now line = (.error fault, line) ∧
      (backend.connect env c).exchanges net now line = []

theorem refuses_of_ofConfig {fault : Fault} (refused : Settings.ofConfig env c = .error fault) :
    Refuses env c fault := by
  intro τ net now line
  have ends : backend.connect env c = .done (.error fault) := connect_of_error refused
  rw [ends]
  exact ⟨rfl, rfl⟩

/-- What becomes of a configured bond dimension, if both halves of the access token are given.  A
text that stands for a bond dimension is accepted, and every submission carries the number that it
stands for.  Any other text is refused as an invalid configuration before anything is sent.  Without
a text nothing is sent for the emulator. -/
theorem bondDim_travels (access : GivesAccess env c id secret) :
    (∀ raw, c.get? "bond_dim" = some raw →
      (∀ n, Dimension raw n → Accepts env c (some (.obj [("bond_dim", .int n)]))) ∧
        ((∀ n, ¬ Dimension raw n) →
          Refuses env c (.invalidConfiguration "bond_dim"
            ("bond_dim must be a positive integer, got '" ++ raw ++ "'")))) ∧
      (c.get? "bond_dim" = none → Accepts env c none) := by
  refine ⟨?_, ?_⟩
  · intro raw given
    refine ⟨?_, ?_⟩
    · intro n dimension
      obtain ⟨a, valid⟩ := exists_ofConfig access fun raw' given' => by
        cases given.symm.trans given'
        exact ⟨n, dimension⟩
      rw [← emulatorOf_of_dimension given dimension]
      exact accepts_of_ofConfig valid
    · intro none
      have refused := ofConfig_eq_error.2 (.bondDim access given (bondDim?_eq_none.2 none))
      exact refuses_of_ofConfig refused
  · intro absent
    obtain ⟨a, valid⟩ := exists_ofConfig access fun raw given => by
      cases absent.symm.trans given
    rw [← emulatorOf_of_absent absent]
    exact accepts_of_ofConfig valid

/-- Sixteen, with a plus sign, leading zeros and white space. -/
def paddedBondDim : Config := slashedUrl.insert "bond_dim" "\t+0016 "

/-- A minus sign is no part of a bond dimension. -/
def signedBondDim : Config := slashedUrl.insert "bond_dim" "-8"

theorem dimension_sixteen : Dimension "\t+0016 " 16 :=
  bondDim?_eq_some.1 rfl

theorem not_dimension_signed (n : Nat) : ¬ Dimension "-8" n :=
  bondDim?_eq_none.1 rfl n

/-- The one is sent as the number sixteen, the other is refused, and without one nothing is sent. -/
theorem bondDim_travels_sixteen :
    GivesAccess .empty paddedBondDim "i" "s" ∧
      Accepts .empty paddedBondDim (some (.obj [("bond_dim", .int 16)])) ∧
      Refuses .empty signedBondDim (.invalidConfiguration "bond_dim"
        "bond_dim must be a positive integer, got '-8'") ∧
      Accepts .empty otherSite none := by
  have padded : GivesAccess .empty paddedBondDim "i" "s" :=
    ⟨⟨.inl rfl, by decide⟩, ⟨.inl rfl, by decide⟩⟩
  have signed : GivesAccess .empty signedBondDim "i" "s" :=
    ⟨⟨.inl rfl, by decide⟩, ⟨.inl rfl, by decide⟩⟩
  have absent : GivesAccess .empty otherSite "j" "t" :=
    ⟨⟨.inl rfl, by decide⟩, ⟨.inl rfl, by decide⟩⟩
  exact ⟨padded, ((bondDim_travels padded).1 _ rfl).1 16 dimension_sixteen,
    ((bondDim_travels signed).1 "-8" rfl).2 not_dimension_signed, (bondDim_travels absent).2 rfl⟩

end Session
end Fermioniq
end QuantumJobs

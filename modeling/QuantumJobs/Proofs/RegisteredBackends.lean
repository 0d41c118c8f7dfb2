import Mathlib.Data.List.Dedup
import QuantumJobs.Backend.Plain
import QuantumJobs.Backend.Registry
import QuantumJobs.Proofs.DictLookup
import QuantumJobs.Proofs.Run

/-!
# RegisteredBackends — what a registry says, told from its past

A registry is filled by registrations and asked by lookups, in any order.  Lookups leave it as it
is.  Under a name stands what was registered under exactly that name last; the names are listed in
ascending order, each once, however often it was registered.
-/

namespace QuantumJobs
namespace Registry

/-! ## Calls -/

/-- What a registry can be asked to do; a backend may be registered by its kind alone. -/
inductive Call (κ β : Type)
  | register (name : String) (blueprint : β)
  | registerDefault (name : String) (kind : κ)
  | create (name : String)
  | available
  | contains (name : String)
  | size

/-- What lookups are answered. -/
inductive Answer (β : Type)
  | made (outcome : Outcome β)
  | names (list : List String)
  | known (registered : Bool)
  | number (n : Nat)

variable {κ β : Type} (default : κ → β)

/-- The name and the blueprint that a call registers. -/
def Call.registration? : Call κ β → Option (String × β)
  | .register name blueprint => some (name, blueprint)
  | .registerDefault name kind => some (name, default kind)
  | _ => none

/-- What a registry answers to a call; nothing to a registration. -/
def answer (r : Registry β) : Call κ β → Option (Answer β)
  | .register _ _ => none
  | .registerDefault _ _ => none
  | .create name => some (.made (r.create name))
  | .available => some (.names r.available)
  | .contains name => some (.known (Dict.contains r name))
  | .size => some (.number (Dict.size r))

/-- The registry after a call. -/
def after (r : Registry β) : Call κ β → Registry β
  | .register name blueprint => r.register name blueprint
  | .registerDefault name kind => r.registerDefault default name kind
  | _ => r

/-- Every call can be made at any time. -/
def step (r : Registry β) (call : Call κ β) : Option (Registry β × Option (Answer β)) :=
  some (r.after default call, r.answer call)

/-! ## What a past says -/

/-- The blueprint is what was registered last under exactly this name. -/
inductive Latest (name : String) (blueprint : β) : Past (Call κ β) (Answer β) → Prop where
  | registered {call : Call κ β} {reply : Option (Answer β)} {before : Past (Call κ β) (Answer β)} :
      call.registration? default = some (name, blueprint) →
        Latest name blueprint ((call, reply) :: before)
  | later {call : Call κ β} {reply : Option (Answer β)} {before : Past (Call κ β) (Answer β)} :
      (∀ other, call.registration? default ≠ some (name, other)) → Latest name blueprint before →
        Latest name blueprint ((call, reply) :: before)

/-- The names under which something was registered, once for each time. -/
def namesIn (past : Past (Call κ β) (Answer β)) : List String :=
  past.filterMap fun e => (e.1.registration? default).map (·.1)

/-- Something was registered under this name. -/
def Registered (name : String) (past : Past (Call κ β) (Answer β)) : Prop :=
  name ∈ namesIn default past

/-- What is looked up in a registry is what its past says. -/
structure Tells (past : Past (Call κ β) (Answer β)) (r : Registry β) : Prop where
  made : ∀ name blueprint, r.create name = .ok blueprint ↔ Latest default name blueprint past
  refused : ∀ name fault, r.create name = .error fault ↔
    fault = .unknownBackend name ∧ ¬ Registered default name past
  ascending : r.available.Pairwise (· < ·)
  listed : ∀ name, name ∈ r.available ↔ Registered default name past
  size : Dict.size r = (namesIn default past).dedup.length
  contains : ∀ name, Dict.contains r name = true ↔ ∃ blueprint, r.create name = .ok blueprint

variable {default} {past : Past (Call κ β) (Answer β)} {r : Registry β} {name : String}
  {blueprint : β} {call : Call κ β} {reply : Option (Answer β)}

theorem latest_cons_iff :
    Latest default name blueprint ((call, reply) :: past) ↔
      call.registration? default = some (name, blueprint) ∨
        (∀ other, call.registration? default ≠ some (name, other)) ∧
          Latest default name blueprint past := by
  constructor
  · intro latest
    cases latest with
    | registered here => exact .inl here
    | later elsewhere before => exact .inr ⟨elsewhere, before⟩
  · rintro (here | ⟨elsewhere, before⟩)
    · exact .registered here
    · exact .later elsewhere before

theorem registered_cons_iff :
    Registered default name ((call, reply) :: past) ↔
      (∃ blueprint, call.registration? default = some (name, blueprint)) ∨
        Registered default name past := by
  unfold Registered namesIn
  rw [List.mem_filterMap, List.mem_filterMap, List.exists_mem_cons_iff]
  simp only [Option.map_eq_some_iff, Prod.exists, exists_and_right, exists_eq_right]

/-- Where something was registered, something was registered last. -/
theorem registered_iff_latest :
    Registered default name past ↔ ∃ blueprint, Latest default name blueprint past := by
  induction past with
  | nil =>
      constructor
      · exact nofun
      · rintro ⟨_, ⟨⟩⟩
  | cons e past ih =>
      obtain ⟨call, reply⟩ := e
      rw [registered_cons_iff, ih]
      constructor
      · rintro (⟨blueprint, here⟩ | ⟨blueprint, before⟩)
        · exact ⟨blueprint, .registered here⟩
        · by_cases again : ∃ other, call.registration? default = some (name, other)
          · obtain ⟨other, here⟩ := again
            exact ⟨other, .registered here⟩
          · exact ⟨blueprint, .later (not_exists.1 again) before⟩
      · rintro ⟨blueprint, latest⟩
        cases latest with
        | registered here => exact .inl ⟨blueprint, here⟩
        | later _ before => exact .inr ⟨blueprint, before⟩

/-! ## Finding blueprints -/

/-- Under every name there is found what was registered last. -/
def Finds (default : κ → β) (past : Past (Call κ β) (Answer β)) (r : Registry β) : Prop :=
  ∀ name blueprint, r.get? name = some blueprint ↔ Latest default name blueprint past

/-- A call puts in its registration, if it is one. -/
theorem get?_after (r : Registry β) (call : Call κ β) (name : String) :
    (r.after default call).get? name
      = match call.registration? default with
        | some (key, blueprint) => if key = name then some blueprint else r.get? name
        | none => r.get? name := by
  cases call with
  | register key blueprint => exact Dict.get?_insert r key name blueprint
  | registerDefault key kind => exact Dict.get?_insert r key name (default kind)
  | _ => rfl

theorem Finds.step (finds : Finds default past r) :
    Finds default ((call, reply) :: past) (r.after default call) := by
  intro name blueprint
  rw [get?_after, latest_cons_iff, ← finds]
  cases registration : call.registration? default with
  | none => simp
  | some entry =>
      obtain ⟨key, given⟩ := entry
      by_cases same : key = name
      · simp [same]
      · simp [same]

theorem finds_of_run (run : Run (Steps (step default)) Dict.empty past r) :
    Finds default past r := by
  apply run.invariant
  · intro name blueprint
    constructor
    · exact nofun
    · rintro ⟨⟩
  · intro past r call reply r' finds move
    cases move
    exact finds.step

/-! ## What is looked up -/

theorem create_eq_ok : r.create name = .ok blueprint ↔ r.get? name = some blueprint := by
  unfold create
  cases r.get? name with
  | none => simp
  | some _ => simp

theorem create_eq_error {fault : Fault} :
    r.create name = .error fault ↔ fault = .unknownBackend name ∧ r.get? name = none := by
  unfold create
  cases r.get? name with
  | none => simp [eq_comm]
  | some _ => simp

/-- A name is listed if something is found under it. -/
theorem mem_available_iff : name ∈ r.available ↔ ∃ blueprint, r.get? name = some blueprint :=
  Dict.mem_keys_iff

theorem ascending_available (r : Registry β) : r.available.Pairwise (· < ·) :=
  Dict.ascending_keys r

theorem size_eq_length_available (r : Registry β) : Dict.size r = r.available.length :=
  (List.length_map _).symm

/-- Lists of names in ascending order are the same if they have the same members. -/
theorem available_ext {r' : Registry β} (same : ∀ name, name ∈ r.available ↔ name ∈ r'.available) :
    r.available = r'.available := by
  have irrefl : Std.Irrefl fun a b : String => a < b := ⟨String.lt_irrefl⟩
  have asymm : Std.Asymm fun a b : String => a < b := ⟨fun _ _ => String.lt_asymm⟩
  exact List.Pairwise.eq_of_mem_iff (ascending_available r) (ascending_available r')
    (fun {name} => same name)

theorem Finds.tells (finds : Finds default past r) : Tells default past r := by
  have listed : ∀ name, name ∈ r.available ↔ Registered default name past := by
    intro name
    rw [mem_available_iff, registered_iff_latest]
    simp only [finds name]
  refine ⟨?_, ?_, ascending_available r, listed, ?_, ?_⟩
  · intro name blueprint
    rw [create_eq_ok, finds]
  · intro name fault
    rw [create_eq_error, registered_iff_latest, Option.eq_none_iff_forall_ne_some, not_exists]
    simp only [ne_eq, finds name]
  · exact Dict.size_of_keys listed
  · intro name
    unfold Dict.contains
    rw [Option.isSome_iff_exists]
    simp only [create_eq_ok]

/-- A name that is known already is listed as before, and nothing changes under other names. -/
theorem available_register (known : name ∈ r.available) (blueprint : β) :
    (r.register name blueprint).available = r.available := by
  apply available_ext
  intro other
  rw [mem_available_iff, mem_available_iff, register, Dict.get?_insert]
  by_cases same : name = other
  · subst same
    simp [mem_available_iff.1 known]
  · simp [same]

theorem create_register_other {other : String} (differ : other ≠ name) (blueprint : β) :
    (r.register name blueprint).create other = r.create other := by
  have elsewhere : (r.register name blueprint).get? other = r.get? other := by
    rw [register, Dict.get?_insert, if_neg (Ne.symm differ)]
  unfold create
  rw [elsewhere]

/-! ## Runs -/

/-- After any calls on an empty registry, everything that can be looked up in it is what the calls
say: under a name what was registered last under exactly that name, and a fault exactly if nothing
ever was; the names that were registered, each once and in strictly ascending order; their number.
Every lookup on the way was answered from the registry of that moment, of which the same is true.
When something is registered under a known name, the list and the number of names stay, and so does
what stands under any other name. -/
theorem lookups_tell_past (run : Run (Steps (step default)) Dict.empty past r) :
    Tells default past r ∧
    (∀ call reply before, (call, reply) :: before <:+ past →
      ∃ r', Tells default before r' ∧ reply = r'.answer call) ∧
    ∀ name blueprint, Registered default name past →
      (r.register name blueprint).available = r.available ∧
      Dict.size (r.register name blueprint) = Dict.size r ∧
      (r.register name blueprint).create name = .ok blueprint ∧
      ∀ other, other ≠ name →
        (r.register name blueprint).create other = r.create other ∧
        Dict.contains (r.register name blueprint) other = Dict.contains r other := by
  have tells := (finds_of_run run).tells
  refine ⟨tells, ?_, ?_⟩
  · intro call reply before moment
    obtain ⟨_, upToThen⟩ := run.at_suffix moment
    cases upToThen with
    | step earlier move =>
        cases move
        exact ⟨_, (finds_of_run earlier).tells, rfl⟩
  · intro name blueprint known
    have names := available_register ((tells.listed name).2 known) blueprint
    refine ⟨names, ?_, ?_, ?_⟩
    · rw [size_eq_length_available, size_eq_length_available, names]
    · rw [create_eq_ok, register, Dict.get?_insert, if_pos rfl]
    · intro other differ
      refine ⟨create_register_other differ blueprint, ?_⟩
      unfold Dict.contains
      rw [register, Dict.get?_insert, if_neg (Ne.symm differ)]

/-- Two backends of which one is registered twice, the second time by its kind, with lookups in
between. -/
def zebraTwice : Past (Call Unit Plain.Session) (Answer Plain.Session) :=
  [(.size, some (.number 2)), (.registerDefault "zebra" (), none),
    (.create "zebra", some (.made (.ok (.fresh "first")))),
    (.register "alpha" (.fresh "alpha"), none),
    (.create "alpha", some (.made (.error (.unknownBackend "alpha")))),
    (.register "zebra" (.fresh "first"), none)]

theorem run_zebraTwice :
    ∃ r : Registry Plain.Session,
      Run (Steps (step fun _ : Unit => Plain.Session.fresh "second")) Dict.empty zebraTwice r ∧
      r.available = ["alpha", "zebra"] ∧ r.create "zebra" = .ok (.fresh "second") := by
  refine ⟨_, Run.of_replay [.register "zebra" (.fresh "first"), .create "alpha",
    .register "alpha" (.fresh "alpha"), .create "zebra", .registerDefault "zebra" (), .size]
    .start rfl, rfl, rfl⟩

/-- The default of the kind stands in the place of what was registered first, and each name is
counted once. -/
theorem zebraTwice_tells :
    ∃ r : Registry Plain.Session,
      Run (Steps (step fun _ : Unit => Plain.Session.fresh "second")) Dict.empty zebraTwice r ∧
      Tells (fun _ => Plain.Session.fresh "second") zebraTwice r ∧
      Latest (fun _ => Plain.Session.fresh "second") "zebra" (.fresh "second") zebraTwice ∧
      (namesIn (fun _ => Plain.Session.fresh "second") zebraTwice).dedup.length = 2 := by
  obtain ⟨r, run, _, zebra⟩ := run_zebraTwice
  have tells := (lookups_tell_past run).1
  exact ⟨r, run, tells, (tells.made "zebra" _).1 zebra, rfl⟩

end Registry
end QuantumJobs

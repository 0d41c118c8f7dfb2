import QuantumJobs.Proofs.SharedLogin

/-!
# TokenLedger — what the token cache holds, told from its past

The token that the cache holds, with its user and its time of issue, is that of the latest login
that succeeded, unless the cache has been cleared since; the generation counts the logins that
succeeded.  Both are read off the past of a run alone.  A login that fails or is dropped changes
neither, and the gate is free after it.  So whoever has been answered with a token finds, as long as
the cache is not cleared, a token that was issued since its call started.
-/

namespace QuantumJobs
namespace TokenCache

/-! ## What a past says -/

/-- A login has ended with a token. -/
def Event.grants : Event → Bool
  | .complete _ (.ok _) => true
  | _ => false

/-- The latest login that succeeded gave the token, and the cache has not been cleared since. -/
inductive Stands (t : Token) : Past Event Reply → Prop where
  | granted {runner : Nat} {reply : Option Reply} {before : Past Event Reply} :
      Stands t ((.complete runner (.ok t), reply) :: before)
  | later {e : Event} {reply : Option Reply} {before : Past Event Reply} :
      e.grants = false → e ≠ .clear → Stands t before → Stands t ((e, reply) :: before)

/-- How many logins have succeeded. -/
def successes (past : Past Event Reply) : Nat := past.countP (·.1.grants)

section Step

variable {t : Token} {e : Event} {reply : Option Reply} {past : Past Event Reply}

theorem stands_cons_iff (other : e.grants = false) (kept : e ≠ .clear) :
    Stands t ((e, reply) :: past) ↔ Stands t past := by
  constructor
  · intro stands
    cases stands with
    | granted => cases other
    | later _ _ before => exact before
  · exact .later other kept

theorem stands_granted_iff {runner : Nat} {given : Token} :
    Stands t ((.complete runner (.ok given), reply) :: past) ↔ given = t := by
  constructor
  · intro stands
    cases stands with
    | granted => rfl
    | later other => cases other
  · rintro rfl
    exact .granted

theorem not_stands_clear : ¬ Stands t ((.clear, reply) :: past) := by
  intro stands
  cases stands with
  | later _ kept => exact kept rfl

/-- Only a login that succeeds is counted. -/
theorem successes_cons (e : Event) (reply : Option Reply) (past : Past Event Reply) :
    successes ((e, reply) :: past) = successes past + if e.grants then 1 else 0 :=
  List.countP_cons

end Step

/-! ## The cache agrees with its past -/

structure Gate.Holds (past : Past Event Reply) (g : Gate) : Prop where
  current : ∀ t, g.cache.current = some t ↔ Stands t past
  generation : g.cache.generation = successes past

section Step

variable {past : Past Event Reply} {g g' : Gate} {e : Event} {reply : Option Reply}

/-- An event that neither ends a login well nor clears the token leaves what the cache holds. -/
theorem Gate.Holds.kept (holds : g.Holds past) (current : g'.cache.current = g.cache.current)
    (generation : g'.cache.generation = g.cache.generation) (other : e.grants = false)
    (kept : e ≠ .clear) : g'.Holds ((e, reply) :: past) where
  current := by
    intro t
    rw [stands_cons_iff other kept, current]
    exact holds.current t
  generation := by
    rw [successes_cons, generation, holds.generation, other]
    rfl

theorem Gate.Holds.step (holds : g.Holds past) (move : g.Moves e reply g') :
    g'.Holds ((e, reply) :: past) := by
  cases move with
  | arrives _ => exact holds.kept rfl rfl rfl (by simp)
  | joins _ _ => exact holds.kept rfl rfl rfl (by simp)
  | shares _ _ _ => exact holds.kept rfl rfl rfl (by simp)
  | begins _ _ _ => exact holds.kept rfl rfl rfl (by simp)
  | @completes caller login _ =>
      cases login with
      | error fault => exact holds.kept rfl rfl rfl (by simp)
      | ok given =>
          refine ⟨?_, ?_⟩
          · intro t
            rw [stands_granted_iff]
            exact Option.some_inj
          · rw [successes_cons, ← holds.generation]
            rfl
  | drops => exact holds.kept rfl rfl rfl (by simp)
  | clears =>
      refine ⟨?_, ?_⟩
      · intro t
        refine iff_of_false ?_ not_stands_clear
        intro held
        cases held
      · rw [successes_cons, ← holds.generation]
        rfl

end Step

theorem Gate.holds_idle : (Gate.idle empty).Holds [] where
  current := by
    intro t
    refine iff_of_false ?_ ?_
    · intro held
      cases held
    · intro stands
      cases stands
  generation := rfl

theorem Gate.holds_of_run {past : Past Event Reply} {g : Gate}
    (run : Run (Steps Gate.step) (Gate.idle empty) past g) : g.Holds past := by
  apply run.invariant Gate.holds_idle
  intro past s e reply s' holds move
  exact holds.step (Gate.moves_of_step move)

/-! ## After an answer -/

/-- The latest login that succeeded gave the token, and it was completed after the caller's call,
the latest under that name, had started.  The cache has not been cleared since. -/
inductive StandsSince (caller : Nat) (t : Token) : Past Event Reply → Prop where
  | granted {runner : Nat} {reply : Option Reply} {before : Past Event Reply} :
      (.arrive caller, none) ∈ before →
        StandsSince caller t ((.complete runner (.ok t), reply) :: before)
  | later {e : Event} {reply : Option Reply} {before : Past Event Reply} :
      e.grants = false → e ≠ .clear → e ≠ .arrive caller → StandsSince caller t before →
        StandsSince caller t ((e, reply) :: before)

section Answer

variable {caller : Nat} {t t' : Token} {past before late : Past Event Reply}
variable {g g' : Gate} {e : Event}

theorem StandsSince.stands (since : StandsSince caller t past) : Stands t past := by
  induction since with
  | granted _ => exact .granted
  | later other kept _ _ ih => exact .later other kept ih

theorem StandsSince.arrived (since : StandsSince caller t past) :
    (.arrive caller, none) ∈ past := by
  induction since with
  | granted arrived => exact List.mem_cons_of_mem _ arrived
  | later _ _ _ _ ih => exact List.mem_cons_of_mem _ ih

/-- If the latest login since the caller came has given a token, and the cache still holds one, it
holds that of this login. -/
theorem LatestSince.standsSince (latest : LatestSince caller (.ok t) past)
    (stands : Stands t' past) : StandsSince caller t past := by
  induction latest with
  | completed arrived => exact .granted arrived
  | later unended old _ ih =>
      cases stands with
      | granted => exact absurd rfl (unended _ _)
      | later other kept before => exact .later other kept old (ih before)

/-- Whoever is answered with a token leaves the cache with that token in it. -/
theorem Gate.current_of_answer (move : g.Moves e (some ⟨caller, .ok t⟩) g') :
    g'.cache.current = some t := by
  generalize answered : some (⟨caller, .ok t⟩ : Reply) = reply at move
  cases move with
  | @shares w rest answer _ _ shared =>
      cases answered
      unfold shared? at shared
      split at shared
      · cases shared
      · split at shared
        · cases shared
        · obtain ⟨held, current, same⟩ := Option.map_eq_some_iff.1 shared
          cases same
          exact current
  | @completes runner login _ =>
      cases login with
      | error fault => cases answered
      | ok given =>
          cases answered
          rfl
  | _ => cases answered

theorem standsSince_of_answer
    (run : Run (Steps Gate.step) (Gate.idle empty) ((e, some ⟨caller, .ok t⟩) :: before) g) :
    StandsSince caller t ((e, some ⟨caller, .ok t⟩) :: before) := by
  have holds := Gate.holds_of_run run
  cases run with
  | step earlier move =>
      have moved := Gate.moves_of_step move
      have stands := (holds.current t).1 (Gate.current_of_answer moved)
      obtain ⟨login, latest, passed⟩ := (Gate.agrees_of_run empty earlier).answer_step moved
      cases passed
      exact latest.standsSince stands

/-- What happens later can only put a later token in the place of the one that stands, unless the
cache is cleared. -/
theorem StandsSince.append (since : StandsSince caller t past)
    (kept : ∀ x ∈ late, x.1 ≠ .clear ∧ x.1 ≠ .arrive caller) :
    ∃ latest, StandsSince caller latest (late ++ past) := by
  induction late with
  | nil => exact ⟨t, since⟩
  | cons x late ih =>
      obtain ⟨e, reply⟩ := x
      obtain ⟨⟨uncleared, old⟩, keptBefore⟩ := List.forall_mem_cons.1 kept
      obtain ⟨latest, soFar⟩ := ih keptBefore
      cases grants : e.grants with
      | false => exact ⟨latest, .later grants uncleared old soFar⟩
      | true =>
          cases e with
          | complete runner login =>
              cases login with
              | ok given => exact ⟨given, .granted soFar.arrived⟩
              | error fault => cases grants
          | _ => cases grants

/-- After a caller has been answered with a token, the cache holds the token of the latest login
that succeeded, which was completed after the call had started, as long as the cache is not
cleared. -/
theorem current_after_answer
    (run : Run (Steps Gate.step) (Gate.idle empty)
      (late ++ (e, some ⟨caller, .ok t⟩) :: before) g)
    (kept : ∀ x ∈ late, x.1 ≠ .clear ∧ x.1 ≠ .arrive caller) :
    ∃ latest, StandsSince caller latest (late ++ (e, some ⟨caller, .ok t⟩) :: before) ∧
      g.cache.current = some latest := by
  obtain ⟨_, answered, _⟩ := run.split
  obtain ⟨latest, since⟩ := (standsSince_of_answer answered).append kept
  exact ⟨latest, since, ((Gate.holds_of_run run).current latest).2 since.stands⟩

end Answer

/-! ## Logins that come to nothing -/

/-- Nobody holds the gate, and whoever is first in the queue can pass it. -/
structure Gate.Free (g : Gate) : Prop where
  idle : g.holder = none
  passes : ∀ w rest, g.queue = w :: rest → ∃ g' reply, g.step (.enter w.caller) = some (g', reply)

theorem Gate.free_of_idle {g : Gate} (idle : g.holder = none) : g.Free where
  idle := idle
  passes := by
    intro w rest first
    cases shared : g.cache.shared? w.observed with
    | some answer => exact ⟨_, _, Gate.step_shares idle first shared⟩
    | none => exact ⟨_, _, Gate.step_begins idle first shared⟩

/-- The gate after a login that has come to nothing: free, with the token and the generation of
before. -/
structure Gate.Unchanged (g g' : Gate) : Prop where
  current : g'.cache.current = g.cache.current
  generation : g'.cache.generation = g.cache.generation
  free : g'.Free

theorem Gate.step_complete {g : Gate} {caller : Nat} (holding : g.holder = some caller)
    (login : Outcome Token) :
    g.step (.complete caller login)
      = some ({ g with cache := (g.cache.record login).2, holder := none },
          some ⟨caller, (g.cache.record login).1⟩) := by
  simp [Gate.step, holding]

/-- A login that fails leaves token and generation. -/
theorem Gate.unchanged_failed {g : Gate} {caller : Nat} (holding : g.holder = some caller)
    (fault : Fault) :
    ∃ g' reply, g.step (.complete caller (.error fault)) = some (g', some reply) ∧
      g.Unchanged g' :=
  ⟨_, _, Gate.step_complete holding _, rfl, rfl, Gate.free_of_idle rfl⟩

/-- So does one that is dropped. -/
theorem Gate.unchanged_dropped {g : Gate} {caller : Nat} (holding : g.holder = some caller) :
    ∃ g', g.step (.drop caller) = some (g', none) ∧ g.Unchanged g' := by
  refine ⟨_, rfl, rfl, rfl, Gate.free_of_idle ?_⟩
  simp [holding]

/-! ## Runs -/

/-- In every run from an empty cache, the cache holds a token exactly if the latest login that
succeeded gave that token and the cache has not been cleared since, and the generation is the number
of logins that have succeeded.  While a login is under way it can fail or be dropped; either leaves
the token and the generation as they are and the gate free for whoever is next. -/
theorem cache_of_run {past : Past Event Reply} {g : Gate}
    (run : Run (Steps Gate.step) (Gate.idle empty) past g) :
    (∀ t, g.cache.current = some t ↔ Stands t past) ∧
      g.cache.generation = successes past ∧
      ∀ caller, LoggingIn caller past →
        (∀ fault, ∃ g' reply, g.step (.complete caller (.error fault)) = some (g', some reply) ∧
          g.Unchanged g') ∧
        ∃ g', g.step (.drop caller) = some (g', none) ∧ g.Unchanged g' := by
  have holds := Gate.holds_of_run run
  refine ⟨holds.current, holds.generation, ?_⟩
  intro caller active
  have holding := (Gate.agrees_of_run empty run).holds caller active
  exact ⟨Gate.unchanged_failed holding, Gate.unchanged_dropped holding⟩

/-- What the first login of `refusedRenewal` gives. -/
def firstToken : Token := ⟨"jwt-1", some "user-1", ⟨0, 0, 0⟩⟩

/-- A token is issued, a second login is refused while that token stands, and a third one is under
way. -/
def refusedRenewal : Past Event Reply :=
  [(.enter 2, none), (.join 2, none), (.arrive 2, none),
    (.complete 1 (.error (.authentication "expired")),
      some ⟨1, .error (.authentication "expired")⟩),
    (.enter 1, none), (.join 1, none), (.arrive 1, none),
    (.complete 0 (.ok firstToken), some ⟨0, .ok firstToken⟩),
    (.enter 0, none), (.join 0, none), (.arrive 0, none)]

/-- The gate then. -/
def thirdUnderWay : Gate := ⟨⟨some firstToken, some "expired", 2, 1⟩, some 2, [], []⟩

theorem run_refusedRenewal :
    Run (Steps Gate.step) (Gate.idle empty) refusedRenewal thirdUnderWay := by
  refine Run.of_replay [.arrive 0, .join 0, .enter 0, .complete 0 (.ok firstToken), .arrive 1,
    .join 1, .enter 1, .complete 1 (.error (.authentication "expired")), .arrive 2, .join 2,
    .enter 2] .start ?_
  rfl

/-- The first token stands through the refusal, and it would if the third login were dropped. -/
theorem refusedRenewal_keeps_token :
    Run (Steps Gate.step) (Gate.idle empty) refusedRenewal thirdUnderWay ∧
      Stands firstToken refusedRenewal ∧ successes refusedRenewal = 1 ∧
      LoggingIn 2 refusedRenewal ∧
      ∃ g', thirdUnderWay.step (.drop 2) = some (g', none) ∧ thirdUnderWay.Unchanged g' := by
  obtain ⟨current, generation, unchanged⟩ := cache_of_run run_refusedRenewal
  have active : LoggingIn 2 refusedRenewal := .begun
  exact ⟨run_refusedRenewal, (current firstToken).1 rfl, generation.symm, active,
    (unchanged 2 active).2⟩

end TokenCache
end QuantumJobs

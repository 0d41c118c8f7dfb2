import QuantumJobs.Proofs.Run
import QuantumJobs.TokenCache.Gate

/-!
# SharedLogin — whom a login answers

At every moment at most one login is under way, and whoever is answered at the gate is answered from
the login that was completed most recently, which was completed after the answered call had started.
Both facts are stated on the past of a run alone: which callers came, entered, ended and were
dropped.  That the gate's fields agree with that past is the invariant.
-/

namespace QuantumJobs
namespace TokenCache

/-! ## Moves of the gate -/

/-- One way for every answer that `Gate.step` gives. -/
inductive Gate.Moves (g : Gate) : Event → Option Reply → Gate → Prop where
  | arrives {caller : Nat} : g.present caller = false →
      Moves g (.arrive caller) none
        { g with coming := g.coming ++ [⟨caller, g.cache.attempts⟩] }
  | joins {caller : Nat} {w : Waiter} : w ∈ g.coming → w.caller = caller →
      Moves g (.join caller) none
        { g with
          queue := g.queue ++ [w]
          coming := g.coming.filter (·.caller ≠ caller) }
  /-- The caller is answered from a login that another one has run. -/
  | shares {w : Waiter} {rest : List Waiter} {answer : Outcome Token} :
      g.holder = none → g.queue = w :: rest → g.cache.shared? w.observed = some answer →
        Moves g (.enter w.caller) (some ⟨w.caller, answer⟩) { g with queue := rest }
  /-- The caller begins a login of its own. -/
  | begins {w : Waiter} {rest : List Waiter} :
      g.holder = none → g.queue = w :: rest → g.cache.shared? w.observed = none →
        Moves g (.enter w.caller) none { g with holder := some w.caller, queue := rest }
  | completes {caller : Nat} {login : Outcome Token} : g.holder = some caller →
      Moves g (.complete caller login) (some ⟨caller, (g.cache.record login).1⟩)
        { g with cache := (g.cache.record login).2, holder := none }
  | drops {caller : Nat} :
      Moves g (.drop caller) none
        { g with
          holder := if g.holder = some caller then none else g.holder
          queue := g.queue.filter (·.caller ≠ caller)
          coming := g.coming.filter (·.caller ≠ caller) }
  | clears : Moves g .clear none { g with cache := g.cache.clear }

theorem Gate.moves_of_step {g g' : Gate} {e : Event} {reply : Option Reply}
    (move : g.step e = some (g', reply)) : g.Moves e reply g' := by
  cases e with
  | arrive caller =>
      unfold Gate.step at move
      by_cases here : g.present caller
      · simp [here] at move
      · simp only [here] at move
        cases move
        exact .arrives (by simpa using here)
  | join caller =>
      unfold Gate.step at move
      cases found : g.coming.find? (·.caller = caller) with
      | none => simp [found] at move
      | some w =>
          simp only [found] at move
          cases move
          have named : w.caller = caller := by simpa using List.find?_some found
          exact .joins (List.mem_of_find?_eq_some found) named
  | enter caller =>
      unfold Gate.step at move
      cases idle : g.holder with
      | some _ => simp [idle] at move
      | none =>
          cases first : g.queue with
          | nil => simp [idle, first] at move
          | cons w rest =>
              simp only [idle, first] at move
              by_cases turn : w.caller = caller
              · subst turn
                cases shared : g.cache.shared? w.observed with
                | some answer =>
                    simp only [shared, if_true] at move
                    cases move
                    rw [← idle]
                    exact .shares idle first shared
                | none =>
                    simp only [shared, if_true] at move
                    cases move
                    exact .begins idle first shared
              · simp [turn] at move
  | complete caller login =>
      unfold Gate.step at move
      by_cases holds : g.holder = some caller
      · simp only [holds, if_true] at move
        cases move
        exact .completes holds
      · simp [holds] at move
  | drop caller =>
      cases move
      exact .drops
  | clear =>
      cases move
      exact .clears

/-- The first in the queue passes the idle gate with the answer that it shares. -/
theorem Gate.step_shares {g : Gate} {w : Waiter} {rest : List Waiter} {answer : Outcome Token}
    (idle : g.holder = none) (first : g.queue = w :: rest)
    (shared : g.cache.shared? w.observed = some answer) :
    g.step (.enter w.caller) = some ({ g with queue := rest }, some ⟨w.caller, answer⟩) := by
  simp [Gate.step, idle, first, shared]

/-- If there is nothing for it to share, it begins a login. -/
theorem Gate.step_begins {g : Gate} {w : Waiter} {rest : List Waiter} (idle : g.holder = none)
    (first : g.queue = w :: rest) (alone : g.cache.shared? w.observed = none) :
    g.step (.enter w.caller) = some ({ g with holder := some w.caller, queue := rest }, none) := by
  simp [Gate.step, idle, first, alone]

/-! ## What a past says -/

/-- A caller has begun a login that has neither ended nor been dropped. -/
inductive LoggingIn (caller : Nat) : Past Event Reply → Prop where
  | begun {before : Past Event Reply} : LoggingIn caller ((.enter caller, none) :: before)
  | later {e : Event} {reply : Option Reply} {before : Past Event Reply} :
      (∀ login, e ≠ .complete caller login) → e ≠ .drop caller → LoggingIn caller before →
        LoggingIn caller ((e, reply) :: before)

/-- The login completed most recently ended with `login`, and the caller's call, which is the latest
under that name, had started before it was completed. -/
inductive LatestSince (caller : Nat) (login : Outcome Token) : Past Event Reply → Prop where
  | completed {runner : Nat} {reply : Option Reply} {before : Past Event Reply} :
      (.arrive caller, none) ∈ before →
        LatestSince caller login ((.complete runner login, reply) :: before)
  | later {e : Event} {reply : Option Reply} {before : Past Event Reply} :
      (∀ runner other, e ≠ .complete runner other) → e ≠ .arrive caller →
        LatestSince caller login before → LatestSince caller login ((e, reply) :: before)

/-- How a login's outcome is passed on: a token as it is, a refusal with its message, and any other
fault as a refusal with the fault's wording. -/
inductive PassedOn : Outcome Token → Outcome Token → Prop where
  | token (t : Token) : PassedOn (.ok t) (.ok t)
  | refused (message : String) :
      PassedOn (.error (.authentication message)) (.error (.authentication message))
  | failed {fault : Fault} : (∀ message, fault ≠ .authentication message) →
      PassedOn (.error fault) (.error (.authentication fault.message))

theorem passedOn_error (fault : Fault) :
    PassedOn (.error fault) (.error (.authentication (failureMessage fault))) := by
  cases fault with
  | authentication message => exact .refused message
  | _ => exact .failed (by intro message equal; cases equal)

theorem passedOn_record (c : TokenCache) (login : Outcome Token) :
    PassedOn login (c.record login).1 := by
  cases login with
  | ok t => exact .token t
  | error fault => exact passedOn_error fault

/-! ## What the cache remembers -/

/-- The cache still knows how the latest login ended; the token may have been cleared since. -/
def Remembers (c : TokenCache) : Outcome Token → Prop
  | .ok t => c.lastFailure = none ∧ (c.current = none ∨ c.current = some t)
  | .error fault => c.lastFailure = some (failureMessage fault)

theorem remembers_record (c : TokenCache) (login : Outcome Token) :
    Remembers (c.record login).2 login := by
  cases login with
  | ok t => exact ⟨rfl, .inr rfl⟩
  | error fault => exact rfl

theorem Remembers.clear {c : TokenCache} {login : Outcome Token} (known : Remembers c login) :
    Remembers c.clear login := by
  cases login with
  | ok t => exact ⟨known.1, .inl rfl⟩
  | error fault => exact known

/-- What the cache shares is the outcome that it remembers. -/
theorem Remembers.passedOn_shared {c : TokenCache} {login answer : Outcome Token} {observed : Nat}
    (known : Remembers c login) (shared : c.shared? observed = some answer) :
    PassedOn login answer := by
  unfold shared? at shared
  by_cases same : c.attempts = observed
  · simp [same] at shared
  · simp only [same, if_false] at shared
    cases login with
    | ok t =>
        -- After the token has been cleared there is nothing to share.
        obtain ⟨noFailure, cleared | kept⟩ := known
        · simp [noFailure, cleared] at shared
        · simp only [noFailure, kept, Option.map_some, Option.some.injEq] at shared
          subst shared
          exact .token t
    | error fault =>
        simp only [show c.lastFailure = _ from known, Option.some.injEq] at shared
        subst shared
        exact passedOn_error fault

/-- A caller that shares an outcome has seen fewer logins than there are. -/
theorem ne_observed_of_shared {c : TokenCache} {answer : Outcome Token} {observed : Nat}
    (shared : c.shared? observed = some answer) : c.attempts ≠ observed := by
  intro same
  subst same
  rw [shared?_attempts] at shared
  cases shared

/-! ## The gate agrees with its past -/

structure Gate.Agrees (past : Past Event Reply) (g : Gate) : Prop where
  /-- Whoever is logging in holds the gate. -/
  holds : ∀ caller, LoggingIn caller past → g.holder = some caller
  /-- Whoever is at the gate has come to it. -/
  came : ∀ caller, g.present caller → (.arrive caller, none) ∈ past
  /-- The count that a waiter saw has changed only if a login was completed since it came. -/
  noted : ∀ w ∈ g.queue ++ g.coming, g.cache.attempts ≠ w.observed →
    ∃ login, LatestSince w.caller login past
  /-- The latest login is remembered. -/
  knows : ∀ caller login, LatestSince caller login past → Remembers g.cache login

section Step

variable {past : Past Event Reply} {g g' : Gate} {e : Event} {reply : Option Reply}

theorem Gate.present_of_waiting {w : Waiter} (waiting : w ∈ g.queue ++ g.coming) :
    g.present w.caller = true := by
  unfold Gate.present
  have named : (g.queue ++ g.coming).any (·.caller = w.caller) = true :=
    List.any_eq_true.2 ⟨w, waiting, by simp⟩
  simp [named]

/-- Whoever is at the gate after a move was there before, or has just come. -/
theorem Gate.Moves.present_before (move : g.Moves e reply g') {caller : Nat}
    (here : g'.present caller) : g.present caller ∨ (e, reply) = (.arrive caller, none) := by
  unfold Gate.present at here ⊢
  simp only [Bool.or_eq_true, decide_eq_true_eq, List.any_eq_true, List.mem_append] at here ⊢
  cases move with
  | arrives _ =>
      rcases here with holding | ⟨w, waiting, named⟩
      · exact .inl (.inl holding)
      · simp only [List.mem_append, List.mem_singleton] at waiting
        rcases waiting with queued | coming | new
        · exact .inl (.inr ⟨w, .inl queued, named⟩)
        · exact .inl (.inr ⟨w, .inr coming, named⟩)
        · subst new
          subst named
          exact .inr rfl
  | joins found _ =>
      rcases here with holding | ⟨w, waiting, named⟩
      · exact .inl (.inl holding)
      · simp only [List.mem_append, List.mem_singleton, List.mem_filter] at waiting
        rcases waiting with (queued | joined) | ⟨coming, _⟩
        · exact .inl (.inr ⟨w, .inl queued, named⟩)
        · subst joined
          exact .inl (.inr ⟨w, .inr found, named⟩)
        · exact .inl (.inr ⟨w, .inr coming, named⟩)
  | shares _ first _ =>
      rcases here with holding | ⟨w, waiting, named⟩
      · exact .inl (.inl holding)
      · refine .inl (.inr ⟨w, ?_, named⟩)
        rw [first]
        exact waiting.imp (List.mem_cons_of_mem _) id
  | @begins v rest _ first _ =>
      rcases here with holding | ⟨w, waiting, named⟩
      · refine .inl (.inr ⟨v, .inl ?_, by simpa using holding⟩)
        simp [first]
      · refine .inl (.inr ⟨w, ?_, named⟩)
        rw [first]
        exact waiting.imp (List.mem_cons_of_mem _) id
  | completes _ =>
      rcases here with holding | waiting
      · cases holding
      · exact .inl (.inr waiting)
  | drops =>
      rcases here with holding | ⟨w, waiting, named⟩
      · refine .inl (.inl ?_)
        split at holding
        · cases holding
        · exact holding
      · simp only [List.mem_filter] at waiting
        exact .inl (.inr ⟨w, waiting.imp And.left And.left, named⟩)
  | clears => exact .inl here

/-- A login under way after a move was under way before, or has just begun at the idle gate. -/
theorem Gate.Agrees.holds_step (agrees : g.Agrees past) (move : g.Moves e reply g') (caller : Nat)
    (active : LoggingIn caller ((e, reply) :: past)) : g'.holder = some caller := by
  cases active with
  | begun =>
      cases move with
      | begins _ _ _ => rfl
  | later unended kept before =>
      have holding : g.holder = some caller := agrees.holds caller before
      cases move with
      | arrives _ => exact holding
      | joins _ _ => exact holding
      | shares _ _ _ => exact holding
      -- Nobody begins while the gate is held.
      | begins idle _ _ =>
          rw [holding] at idle
          cases idle
      | completes holds =>
          rw [holding] at holds
          cases holds
          exact absurd rfl (unended _)
      | @drops dropped =>
          have other : g.holder ≠ some dropped := by
            intro same
            rw [holding] at same
            cases same
            exact kept rfl
          simpa [other] using holding
      | clears => exact holding

theorem Gate.Agrees.came_step (agrees : g.Agrees past) (move : g.Moves e reply g') (caller : Nat)
    (here : g'.present caller) : (.arrive caller, none) ∈ (e, reply) :: past := by
  rcases move.present_before here with before | new
  · exact List.mem_cons_of_mem _ (agrees.came caller before)
  · rw [new]
    exact List.mem_cons_self

/-- A waiter of before keeps its login through every move that completes none. -/
theorem Gate.Agrees.noted_later (agrees : g.Agrees past) {w : Waiter}
    (waiting : w ∈ g.queue ++ g.coming) (changed : g.cache.attempts ≠ w.observed)
    (unended : ∀ runner login, e ≠ .complete runner login) (old : e ≠ .arrive w.caller) :
    ∃ login, LatestSince w.caller login ((e, reply) :: past) := by
  obtain ⟨login, latest⟩ := agrees.noted w waiting changed
  exact ⟨login, .later unended old latest⟩

theorem Gate.Agrees.noted_step (agrees : g.Agrees past) (move : g.Moves e reply g') :
    ∀ w ∈ g'.queue ++ g'.coming, g'.cache.attempts ≠ w.observed →
      ∃ login, LatestSince w.caller login ((e, reply) :: past) := by
  intro w waiting changed
  cases move with
  | @arrives caller absent =>
      rw [← List.append_assoc] at waiting
      rcases List.mem_append.1 waiting with old | new
      · refine agrees.noted_later old changed (by intros; simp) ?_
        -- The newcomer was not at the gate, so no waiter has its name.
        intro same
        cases same
        rw [Gate.present_of_waiting old] at absent
        cases absent
      · simp only [List.mem_singleton] at new
        subst new
        exact absurd rfl changed
  | joins found _ =>
      have old : w ∈ g.queue ++ g.coming := by
        simp only [List.mem_append, List.mem_singleton, List.mem_filter] at waiting ⊢
        rcases waiting with (queued | joined) | ⟨coming, _⟩
        · exact .inl queued
        · exact .inr (joined ▸ found)
        · exact .inr coming
      exact agrees.noted_later old changed (by intros; simp) (by simp)
  | shares _ first _ =>
      have old : w ∈ g.queue ++ g.coming := by
        rw [first]
        exact List.mem_cons_of_mem _ waiting
      exact agrees.noted_later old changed (by intros; simp) (by simp)
  | begins _ first _ =>
      have old : w ∈ g.queue ++ g.coming := by
        rw [first]
        exact List.mem_cons_of_mem _ waiting
      exact agrees.noted_later old changed (by intros; simp) (by simp)
  | @completes _ login _ =>
      exact ⟨login, .completed (agrees.came _ (Gate.present_of_waiting waiting))⟩
  | drops =>
      have old : w ∈ g.queue ++ g.coming := by
        simp only [List.mem_append, List.mem_filter] at waiting ⊢
        exact waiting.imp And.left And.left
      exact agrees.noted_later old changed (by intros; simp) (by simp)
  | clears => exact agrees.noted_later waiting changed (by intros; simp) (by simp)

theorem Gate.Agrees.knows_step (agrees : g.Agrees past) (move : g.Moves e reply g') (caller : Nat)
    (login : Outcome Token) (latest : LatestSince caller login ((e, reply) :: past)) :
    Remembers g'.cache login := by
  cases latest with
  | completed _ =>
      cases move with
      | completes _ => exact remembers_record g.cache login
  | later unended _ before =>
      have known : Remembers g.cache login := agrees.knows caller login before
      cases move with
      | arrives _ => exact known
      | joins _ _ => exact known
      | shares _ _ _ => exact known
      | begins _ _ _ => exact known
      | completes _ => exact absurd rfl (unended _ _)
      | drops => exact known
      | clears => exact known.clear

theorem Gate.Agrees.step (agrees : g.Agrees past) (move : g.Moves e reply g') :
    g'.Agrees ((e, reply) :: past) where
  holds := agrees.holds_step move
  came := agrees.came_step move
  noted := agrees.noted_step move
  knows := agrees.knows_step move

/-- Whoever is answered by a move is answered from the latest login, which ended since it came. -/
theorem Gate.Agrees.answer_step (agrees : g.Agrees past) {r : Reply}
    (move : g.Moves e (some r) g') :
    ∃ login, LatestSince r.caller login ((e, some r) :: past) ∧ PassedOn login r.answer := by
  cases move with
  | @shares w rest answer _ first shared =>
      have waiting : w ∈ g.queue ++ g.coming := by simp [first]
      obtain ⟨login, latest⟩ := agrees.noted w waiting (ne_observed_of_shared shared)
      refine ⟨login, .later (by intros; simp) (by simp) latest, ?_⟩
      exact (agrees.knows w.caller login latest).passedOn_shared shared
  | @completes caller login holds =>
      have here : g.present caller = true := by simp [Gate.present, holds]
      exact ⟨login, .completed (agrees.came caller here), passedOn_record g.cache login⟩

end Step

theorem Gate.agrees_idle (c : TokenCache) : (Gate.idle c).Agrees [] where
  holds := by
    intro caller active
    cases active
  came := by
    intro caller here
    simp [Gate.present, Gate.idle] at here
  noted := by
    intro w waiting
    simp [Gate.idle] at waiting
  knows := by
    intro caller login latest
    cases latest

theorem Gate.agrees_of_run (c : TokenCache) {past : Past Event Reply} {g : Gate}
    (run : Run (Steps Gate.step) (Gate.idle c) past g) : g.Agrees past := by
  apply run.invariant (Gate.agrees_idle c)
  intro past s e reply s' agrees move
  exact agrees.step (Gate.moves_of_step move)

/-! ## Runs -/

/-- In every run, at every moment at most one login is under way, and every answer passes on the
outcome of the login completed most recently, which was completed after the answered call had
started. -/
theorem answered_from_latest_login (c : TokenCache) {past : Past Event Reply} {g : Gate}
    (run : Run (Steps Gate.step) (Gate.idle c) past g) :
    (∀ moment, moment <:+ past → ∀ a b, LoggingIn a moment → LoggingIn b moment → a = b) ∧
      ∀ e r before, (e, some r) :: before <:+ past →
        ∃ login, LatestSince r.caller login ((e, some r) :: before) ∧ PassedOn login r.answer := by
  constructor
  · intro moment older a b first second
    obtain ⟨_, soFar⟩ := run.at_suffix older
    have agrees := Gate.agrees_of_run c soFar
    have same := agrees.holds b second
    rw [agrees.holds a first] at same
    exact Option.some.inj same
  · intro e r before older
    obtain ⟨_, soFar⟩ := run.at_suffix older
    cases soFar with
    | step earlier move =>
        exact (Gate.agrees_of_run c earlier).answer_step (Gate.moves_of_step move)

/-- A caller comes while another one's login is under way, and shares its fault. -/
def sharedFault : Past Event Reply :=
  [(.enter 1, some ⟨1, .error (.authentication "Transport error: timed out")⟩),
    (.complete 0 (.error (.transport none "timed out")),
      some ⟨0, .error (.authentication "Transport error: timed out")⟩),
    (.clear, none), (.join 1, none), (.enter 0, none), (.join 0, none), (.arrive 1, none),
    (.arrive 0, none)]

theorem run_sharedFault :
    Run (Steps Gate.step) (Gate.idle empty) sharedFault
      (Gate.idle ⟨none, some "Transport error: timed out", 1, 0⟩) := by
  refine Run.of_replay [.arrive 0, .arrive 1, .join 0, .enter 0, .join 1, .clear,
    .complete 0 (.error (.transport none "timed out")), .enter 1] .start ?_
  rfl

/-- The caller that shares the fault shares that of the latest login. -/
theorem sharedFault_answered :
    Run (Steps Gate.step) (Gate.idle empty) sharedFault
        (Gate.idle ⟨none, some "Transport error: timed out", 1, 0⟩) ∧
      ∃ login, LatestSince 1 login sharedFault ∧
        PassedOn login (.error (.authentication "Transport error: timed out")) := by
  refine ⟨run_sharedFault, ?_⟩
  exact (answered_from_latest_login empty run_sharedFault).2 (.enter 1)
    ⟨1, .error (.authentication "Transport error: timed out")⟩ _ (List.suffix_refl _)

end TokenCache
end QuantumJobs

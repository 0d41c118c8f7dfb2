import QuantumJobs.Proofs.SharedLogin

/-!
# OneLogin — one login for all who wait for it

Calls that start while a login is under way queue behind it.  When it has been completed they pass
the gate one after another, and each is answered from it; nobody logs in again before the last of
them has passed.  A call that starts after that logs in itself when its turn comes.

A call starts when its caller arrives, and joins the queue in a step of its own.  Of a call that has
started when a login is completed, and joins the queue only afterwards, it is shown that it never
logs in, and that it shares that login unless another one ends first.
-/

namespace QuantumJobs
namespace TokenCache

/-! ## What a past says -/

/-- A caller has joined the queue and has neither passed the gate nor been dropped. -/
inductive Queued (caller : Nat) : Past Event Reply → Prop where
  | joined {before : Past Event Reply} : Queued caller ((.join caller, none) :: before)
  | later {e : Event} {reply : Option Reply} {before : Past Event Reply} :
      e ≠ .enter caller → e ≠ .drop caller → Queued caller before →
        Queued caller ((e, reply) :: before)

/-- A caller does not pass the gate and is not dropped. -/
def Undisturbed (caller : Nat) (past : Past Event Reply) : Prop :=
  ∀ e ∈ past, e.1 ≠ .enter caller ∧ e.1 ≠ .drop caller

/-- The token is not cleared. -/
def Uncleared (past : Past Event Reply) : Prop := ∀ e ∈ past, e.1 ≠ .clear

/-- No call starts. -/
def NoArrival (past : Past Event Reply) : Prop := ∀ e ∈ past, ∀ caller, e.1 ≠ .arrive caller

/-- Nobody begins a login. -/
def NoLogin (past : Past Event Reply) : Prop := ∀ e ∈ past, ∀ caller, e ≠ (.enter caller, none)

/-- No login is completed. -/
def NoneEnds (past : Past Event Reply) : Prop :=
  ∀ e ∈ past, ∀ runner login, e.1 ≠ .complete runner login

/-- When the caller's turn comes, the gate replies as given; and its turn comes by nothing but
others' passing, each of whom gets the answer that is given for them. -/
structure Gate.Turn (g : Gate) (caller : Nat) (others : Outcome Token) (reply : Option Reply) :
    Prop where
  passes : ∀ g' given, g.step (.enter caller) = some (g', given) → given = reply
  comes : ∃ ahead g₁ g₂, Run (Steps Gate.step) g ahead g₁ ∧
    (∀ e ∈ ahead, ∃ other, e = (.enter other, some ⟨other, others⟩)) ∧
    g₁.step (.enter caller) = some (g₂, reply)

/-! ## What the cache shares -/

/-- Whoever saw fewer logins than have now been completed shares the one that was just noted. -/
theorem shared?_record (c : TokenCache) (login : Outcome Token) {observed : Nat}
    (earlier : (c.record login).2.attempts ≠ observed) :
    (c.record login).2.shared? observed = some (c.record login).1 := by
  unfold shared?
  rw [if_neg earlier]
  cases login <;> rfl

theorem attempts_record (c : TokenCache) (login : Outcome Token) :
    (c.record login).2.attempts = c.attempts + 1 := by
  cases login <;> rfl

/-- A cache that shares with everybody who saw fewer logins. -/
def Shares (c : TokenCache) : Prop :=
  ∀ observed, c.attempts ≠ observed → ∃ answer, c.shared? observed = some answer

theorem shares_record (c : TokenCache) (login : Outcome Token) : (c.record login).2.Shares :=
  fun _ earlier => ⟨_, shared?_record c login earlier⟩

/-! ## Waiters in the gate's state -/

section Step

variable {g g' : Gate} {e : Event} {reply : Option Reply}

/-- No waiter saw more logins than have been completed. -/
def Gate.Seen (g : Gate) : Prop := ∀ w ∈ g.queue ++ g.coming, w.observed ≤ g.cache.attempts

/-- Every waiter of after a move was a waiter before it, or has just come. -/
theorem Gate.Moves.waiter_before (move : g.Moves e reply g') {w : Waiter}
    (waiting : w ∈ g'.queue ++ g'.coming) :
    w ∈ g.queue ++ g.coming ∨
      (e = .arrive w.caller ∧ w.observed = g.cache.attempts ∧ g.present w.caller = false) := by
  cases move with
  | arrives absent =>
      rw [← List.append_assoc] at waiting
      rcases List.mem_append.1 waiting with old | new
      · exact .inl old
      · obtain rfl := List.mem_singleton.1 new
        exact .inr ⟨rfl, rfl, absent⟩
  | joins found _ =>
      refine .inl ?_
      simp only [List.mem_append, List.mem_singleton, List.mem_filter] at waiting ⊢
      rcases waiting with (queued | rfl) | ⟨coming, _⟩
      · exact .inl queued
      · exact .inr found
      · exact .inr coming
  | shares _ first _ =>
      rw [first]
      exact .inl (List.mem_cons_of_mem _ waiting)
  | begins _ first _ =>
      rw [first]
      exact .inl (List.mem_cons_of_mem _ waiting)
  | completes _ => exact .inl waiting
  | drops =>
      simp only [List.mem_append, List.mem_filter] at waiting ⊢
      exact .inl (waiting.imp And.left And.left)
  | clears => exact .inl waiting

/-- The count of completed logins goes up by one when a login ends, and stays otherwise. -/
theorem Gate.Moves.attempts_le (move : g.Moves e reply g') :
    g.cache.attempts ≤ g'.cache.attempts := by
  cases move with
  | completes _ =>
      rw [attempts_record]
      exact Nat.le_succ _
  | _ => exact Nat.le_refl _

theorem Gate.Seen.step (seen : g.Seen) (move : g.Moves e reply g') : g'.Seen := by
  intro w waiting
  rcases move.waiter_before waiting with old | ⟨_, new, _⟩
  · exact Nat.le_trans (seen w old) move.attempts_le
  · rw [new]
    exact move.attempts_le

theorem Gate.seen_of_run (c : TokenCache) {past : Past Event Reply}
    (run : Run (Steps Gate.step) (Gate.idle c) past g) : g.Seen := by
  apply run.invariant
  · intro w waiting
    cases waiting
  · intro past s e reply s' seen move
    exact seen.step (Gate.moves_of_step move)

/-- Whoever is queued according to the past stands in the gate's queue. -/
theorem Gate.queued_of_run (c : TokenCache) {past : Past Event Reply}
    (run : Run (Steps Gate.step) (Gate.idle c) past g) :
    ∀ caller, Queued caller past → ∃ w ∈ g.queue, w.caller = caller := by
  apply run.invariant
  · intro caller queued
    cases queued
  · intro past s e reply s' ih move caller queued
    have moved := Gate.moves_of_step move
    cases queued with
    | joined =>
        cases moved with
        | @joins _ w _ named => exact ⟨w, by simp, named⟩
    | later noEntry noDrop before =>
        obtain ⟨w, here, named⟩ := ih caller before
        cases moved with
        | arrives _ => exact ⟨w, here, named⟩
        | joins _ _ => exact ⟨w, List.mem_append_left _ here, named⟩
        | shares _ first _ =>
            -- Only the first in the queue leaves it, and it passes under its own name.
            rw [first] at here
            rcases List.mem_cons.1 here with rfl | later
            · exact absurd (congrArg Event.enter named) noEntry
            · exact ⟨w, later, named⟩
        | begins _ first _ =>
            rw [first] at here
            rcases List.mem_cons.1 here with rfl | later
            · exact absurd (congrArg Event.enter named) noEntry
            · exact ⟨w, later, named⟩
        | completes _ => exact ⟨w, here, named⟩
        | @drops dropped =>
            refine ⟨w, List.mem_filter.2 ⟨here, ?_⟩, named⟩
            have other : w.caller ≠ dropped := by
              rintro rfl
              exact noDrop (congrArg Event.drop named)
            simpa using other
        | clears => exact ⟨w, here, named⟩

/-! ## Calls ahead of a caller -/

/-- A waiter's turn comes after that of others, all of whom share; nobody is logging in. -/
structure Gate.Ahead (c : TokenCache) (answer : Outcome Token) (w : Waiter) (others : List Waiter)
    (g : Gate) : Prop where
  idle : g.holder = none
  cache : g.cache = c
  queue : ∃ behind, g.queue = others ++ w :: behind
  share : ∀ v ∈ others, v.caller ≠ w.caller ∧ c.shared? v.observed = some answer

variable {c : TokenCache} {answer : Outcome Token} {w : Waiter} {others : List Waiter}

/-- As long as the waiter does not pass, only those ahead of it do. -/
theorem Gate.Ahead.step (ahead : g.Ahead c answer w others) (move : g.Moves e reply g')
    (kept : e ≠ .clear) (noEntry : e ≠ .enter w.caller) (noDrop : e ≠ .drop w.caller) :
    (∃ others', g'.Ahead c answer w others') ∧ ∀ caller, (e, reply) ≠ (.enter caller, none) := by
  obtain ⟨behind, queue⟩ := ahead.queue
  cases move with
  | arrives _ => exact ⟨⟨others, ahead.idle, ahead.cache, ⟨behind, queue⟩, ahead.share⟩, by simp⟩
  | @joins _ joining _ _ =>
      refine ⟨⟨others, ahead.idle, ahead.cache, ⟨behind ++ [joining], ?_⟩, ahead.share⟩, by simp⟩
      simp [queue]
  | @shares v rest _ _ first _ =>
      refine ⟨?_, by simp⟩
      cases others with
      | nil =>
          rw [queue] at first
          cases first
          exact absurd rfl noEntry
      | cons next others =>
          rw [queue] at first
          cases first
          exact ⟨others, ahead.idle, ahead.cache, ⟨behind, rfl⟩,
            fun u here => ahead.share u (List.mem_cons_of_mem _ here)⟩
  | @begins v rest _ first alone =>
      cases others with
      | nil =>
          rw [queue] at first
          cases first
          exact absurd rfl noEntry
      | cons next others =>
          -- The first in the queue shares, so it does not log in.
          rw [queue] at first
          cases first
          have shares := (ahead.share _ List.mem_cons_self).2
          rw [← ahead.cache, alone] at shares
          cases shares
  | completes holding =>
      rw [ahead.idle] at holding
      cases holding
  | @drops dropped =>
      have stays : w.caller ≠ dropped := by
        rintro rfl
        exact noDrop rfl
      refine ⟨⟨others.filter (·.caller ≠ dropped), ?_, ahead.cache,
        ⟨behind.filter (·.caller ≠ dropped), ?_⟩, ?_⟩, by simp⟩
      · simp [ahead.idle]
      · simp [queue, stays]
      · intro v here
        exact ahead.share v (List.mem_filter.1 here).1
  | clears => exact absurd rfl kept

theorem Gate.Ahead.run {since : Past Event Reply} (run : Run (Steps Gate.step) g since g')
    (ahead : g.Ahead c answer w others) (kept : Uncleared since)
    (waits : Undisturbed w.caller since) :
    (∃ others', g'.Ahead c answer w others') ∧ NoLogin since := by
  induction run with
  | start => exact ⟨⟨others, ahead⟩, by simp [NoLogin]⟩
  | @step past s s' e reply _ move ih =>
      obtain ⟨keptNow, keptBefore⟩ := List.forall_mem_cons.1 kept
      obtain ⟨waitsNow, waitsBefore⟩ := List.forall_mem_cons.1 waits
      obtain ⟨⟨others', soFar⟩, noLogin⟩ := ih keptBefore waitsBefore
      obtain ⟨next, nobody⟩ :=
        soFar.step (Gate.moves_of_step move) keptNow waitsNow.1 waitsNow.2
      exact ⟨next, List.forall_mem_cons.2 ⟨nobody, noLogin⟩⟩

/-! ## A caller's turn -/

/-- Whoever passes the gate is the first in the queue. -/
theorem Gate.first_of_step {caller : Nat} (passed : g.step (.enter caller) = some (g', reply)) :
    ∃ v rest, g.queue = v :: rest ∧ v.caller = caller ∧
      reply = (g.cache.shared? v.observed).map (⟨caller, ·⟩) := by
  generalize event : Event.enter caller = e at passed
  cases Gate.moves_of_step passed with
  | @shares v rest answer _ first shared =>
      cases event
      exact ⟨v, rest, first, rfl, by rw [shared]; rfl⟩
  | @begins v rest _ first alone =>
      cases event
      exact ⟨v, rest, first, rfl, by rw [alone]; rfl⟩
  | _ => cases event

theorem Gate.Ahead.comes (ahead : g.Ahead c answer w others) :
    ∃ passed g₁ g₂, Run (Steps Gate.step) g passed g₁ ∧
      (∀ e ∈ passed, ∃ other, e = (.enter other, some ⟨other, answer⟩)) ∧
      g₁.step (.enter w.caller)
        = some (g₂, (c.shared? w.observed).map (⟨w.caller, ·⟩)) := by
  induction others generalizing g with
  | nil =>
      obtain ⟨behind, queue⟩ := ahead.queue
      rw [← ahead.cache]
      cases shared : g.cache.shared? w.observed with
      | some own => exact ⟨[], g, _, .start, by simp, Gate.step_shares ahead.idle queue shared⟩
      | none => exact ⟨[], g, _, .start, by simp, Gate.step_begins ahead.idle queue shared⟩
  | cons v others ih =>
      obtain ⟨behind, queue⟩ := ahead.queue
      have shared := (ahead.share v List.mem_cons_self).2
      rw [← ahead.cache] at shared
      have turn := Gate.step_shares ahead.idle queue shared
      -- The first one passes with the shared answer, then the others do.
      have next : Gate.Ahead c answer w others { g with queue := others ++ w :: behind } :=
        ⟨ahead.idle, ahead.cache, ⟨behind, rfl⟩,
          fun u here => ahead.share u (List.mem_cons_of_mem _ here)⟩
      obtain ⟨passed, g₁, g₂, run, alike, last⟩ := ih next
      refine ⟨passed ++ [(.enter v.caller, some ⟨v.caller, answer⟩)], g₁, g₂, ?_, ?_, last⟩
      · exact (Run.start.step turn).trans run
      · intro e here
        rcases List.mem_append.1 here with later | now
        · exact alike e later
        · exact ⟨v.caller, List.mem_singleton.1 now⟩

theorem Gate.Ahead.turn (ahead : g.Ahead c answer w others) :
    g.Turn w.caller answer ((c.shared? w.observed).map (⟨w.caller, ·⟩)) where
  comes := ahead.comes
  passes := by
    intro g' given passed
    obtain ⟨behind, queue⟩ := ahead.queue
    obtain ⟨v, rest, first, named, rfl⟩ := Gate.first_of_step passed
    rw [queue] at first
    cases others with
    | nil =>
        cases first
        rw [ahead.cache]
    | cons next others =>
        cases first
        exact absurd named (ahead.share _ List.mem_cons_self).1

/-! ## After a login has been completed -/

/-- Nobody is logging in, and all who wait share, but for a few who may have come since and have not
joined the queue. -/
structure Gate.Serving (c : TokenCache) (answer : Outcome Token) (fresh : List Waiter) (g : Gate) :
    Prop where
  idle : g.holder = none
  cache : g.cache = c
  queue : ∀ v ∈ g.queue, c.shared? v.observed = some answer ∧ ∀ w ∈ fresh, v.caller ≠ w.caller
  coming : ∀ v ∈ g.coming,
    v ∈ fresh ∨ (c.shared? v.observed = some answer ∧ ∀ w ∈ fresh, v.caller ≠ w.caller)

variable {fresh : List Waiter}

theorem Gate.Serving.step (serving : g.Serving c answer fresh) (move : g.Moves e reply g')
    (kept : e ≠ .clear) (noArrival : ∀ caller, e ≠ .arrive caller)
    (waits : ∀ v ∈ fresh, e ≠ .join v.caller) :
    g'.Serving c answer fresh ∧ ∀ caller, (e, reply) ≠ (.enter caller, none) := by
  cases move with
  | arrives _ => exact absurd rfl (noArrival _)
  | @joins caller joining found named =>
      have old : joining ∉ fresh := by
        intro isFresh
        exact waits joining isFresh (congrArg Event.join named.symm)
      refine ⟨⟨serving.idle, serving.cache, ?_, ?_⟩, by simp⟩
      · intro v here
        rcases List.mem_append.1 here with queued | joined
        · exact serving.queue v queued
        · obtain rfl := List.mem_singleton.1 joined
          exact (serving.coming v found).resolve_left old
      · intro v here
        exact serving.coming v (List.mem_filter.1 here).1
  | shares _ first _ =>
      refine ⟨⟨serving.idle, serving.cache, ?_, serving.coming⟩, by simp⟩
      intro v here
      refine serving.queue v ?_
      rw [first]
      exact List.mem_cons_of_mem _ here
  | @begins v rest _ first alone =>
      -- The first in the queue shares, so it does not log in.
      have shares := (serving.queue v (by simp [first])).1
      rw [← serving.cache, alone] at shares
      cases shares
  | completes holding =>
      rw [serving.idle] at holding
      cases holding
  | drops =>
      refine ⟨⟨by simp [serving.idle], serving.cache, ?_, ?_⟩, by simp⟩
      · intro v here
        exact serving.queue v (List.mem_filter.1 here).1
      · intro v here
        exact serving.coming v (List.mem_filter.1 here).1
  | clears => exact absurd rfl kept

theorem Gate.Serving.run {since : Past Event Reply} (run : Run (Steps Gate.step) g since g')
    (serving : g.Serving c answer fresh) (kept : Uncleared since) (noArrival : NoArrival since)
    (waits : ∀ e ∈ since, ∀ v ∈ fresh, e.1 ≠ .join v.caller) :
    g'.Serving c answer fresh ∧ NoLogin since := by
  induction run with
  | start => exact ⟨serving, by simp [NoLogin]⟩
  | @step past s s' e reply _ move ih =>
      obtain ⟨keptNow, keptBefore⟩ := List.forall_mem_cons.1 kept
      obtain ⟨arrivalNow, arrivalBefore⟩ := List.forall_mem_cons.1 noArrival
      obtain ⟨waitsNow, waitsBefore⟩ := List.forall_mem_cons.1 waits
      obtain ⟨soFar, noLogin⟩ := ih keptBefore arrivalBefore waitsBefore
      obtain ⟨next, nobody⟩ := soFar.step (Gate.moves_of_step move) keptNow arrivalNow waitsNow
      exact ⟨next, List.forall_mem_cons.2 ⟨nobody, noLogin⟩⟩

/-- When a login has been completed, all who wait share it. -/
theorem Gate.serving_completed (seen : g.Seen) (login : Outcome Token) :
    Gate.Serving (g.cache.record login).2 (g.cache.record login).1 []
      { g with cache := (g.cache.record login).2, holder := none } := by
  have shares : ∀ v ∈ g.queue ++ g.coming,
      (g.cache.record login).2.shared? v.observed = some (g.cache.record login).1 := by
    intro v waiting
    apply shared?_record
    have before := seen v waiting
    rw [attempts_record]
    omega
  refine ⟨rfl, rfl, ?_, ?_⟩
  · intro v here
    exact ⟨shares v (List.mem_append_left _ here), by simp⟩
  · intro v here
    exact .inr ⟨shares v (List.mem_append_right _ here), by simp⟩

/-- Whoever is queued when all who wait share has only such calls ahead of it. -/
theorem Gate.Serving.ahead (serving : g.Serving c answer fresh) {caller : Nat}
    (queued : ∃ v ∈ g.queue, v.caller = caller) :
    ∃ v others, v.caller = caller ∧ c.shared? v.observed = some answer ∧
      g.Ahead c answer v others := by
  -- If there were several of that name, the first of them would be the next to pass.
  have found : (g.queue.find? (·.caller = caller)).isSome := by
    obtain ⟨v, here, named⟩ := queued
    exact List.find?_isSome.2 ⟨v, here, by simpa using named⟩
  obtain ⟨v, first⟩ := Option.isSome_iff_exists.1 found
  obtain ⟨named, others, behind, queue, before⟩ := List.find?_eq_some_iff_append.1 first
  have named' : v.caller = caller := by simpa using named
  refine ⟨v, others, named', (serving.queue v (by simp [queue])).1, serving.idle, serving.cache,
    ⟨behind, queue⟩, ?_⟩
  intro u here
  refine ⟨?_, (serving.queue u (by simp [queue, here])).1⟩
  have other := before u here
  rw [named']
  simpa using other

/-! ## The first call to start afterwards -/

/-- A call is the first to start, and it has joined the queue before any other starts. -/
inductive FirstToStart (caller : Nat) : Past Event Reply → Prop where
  | intro {between older : Past Event Reply} : NoArrival older → NoArrival between →
      (∀ e ∈ between, e.1 ≠ .join caller) →
        FirstToStart caller ((.join caller, none) :: (between ++ (.arrive caller, none) :: older))

/-- The newcomer has only such calls ahead of it as share, and it has seen all logins. -/
theorem Gate.Serving.first_to_start {since : Past Event Reply} {caller : Nat}
    (serving : g.Serving c answer []) (run : Run (Steps Gate.step) g since g')
    (kept : Uncleared since) (first : FirstToStart caller since) :
    ∃ others, g'.Ahead c answer ⟨caller, c.attempts⟩ others ∧ NoLogin since := by
  cases first with
  | @intro between older noOlder noBetween waits =>
      obtain ⟨_, keptRest⟩ := List.forall_mem_cons.1 kept
      obtain ⟨keptBetween, keptArrival⟩ := List.forall_mem_append.1 keptRest
      obtain ⟨_, keptOlder⟩ := List.forall_mem_cons.1 keptArrival
      cases run with
      | @step _ g₃ _ _ _ waited join =>
          obtain ⟨g₂, came, second⟩ := Run.split waited
          cases came with
          | @step _ g₁ _ _ _ served arrive =>
              obtain ⟨idle, noFirst⟩ := serving.run served keptOlder noOlder (by simp)
              have arrived : g₂.Serving c answer [⟨caller, c.attempts⟩] := by
                cases Gate.moves_of_step arrive with
                | arrives absent =>
                    have others : ∀ v ∈ g₁.queue ++ g₁.coming, v.caller ≠ caller := by
                      rintro v here rfl
                      rw [Gate.present_of_waiting here] at absent
                      cases absent
                    refine ⟨idle.idle, idle.cache, ?_, ?_⟩
                    · intro v here
                      refine ⟨(idle.queue v here).1, ?_⟩
                      simpa using others v (List.mem_append_left _ here)
                    · intro v here
                      rcases List.mem_append.1 here with old | new
                      · refine .inr ⟨?_, by simpa using others v (List.mem_append_right _ old)⟩
                        exact ((idle.coming v old).resolve_left (by simp)).1
                      · rw [← idle.cache]
                        exact .inl new
              obtain ⟨waiting, noSecond⟩ :=
                arrived.run second keptBetween noBetween (by simpa using waits)
              have noLogin : NoLogin
                  ((.join caller, none) :: (between ++ (.arrive caller, none) :: older)) := by
                refine List.forall_mem_cons.2 ⟨by simp, List.forall_mem_append.2 ⟨noSecond, ?_⟩⟩
                exact List.forall_mem_cons.2 ⟨by simp, noFirst⟩
              refine ⟨g₃.queue, ?_, noLogin⟩
              cases Gate.moves_of_step join with
              | @joins _ w found named =>
                  have own : w = ⟨caller, c.attempts⟩ := by
                    rcases waiting.coming w found with new | ⟨_, other⟩
                    · exact List.mem_singleton.1 new
                    · exact absurd named (other ⟨caller, c.attempts⟩ List.mem_cons_self)
                  subst own
                  refine ⟨waiting.idle, waiting.cache, ⟨[], rfl⟩, ?_⟩
                  intro v here
                  obtain ⟨shares, other⟩ := waiting.queue v here
                  exact ⟨other _ List.mem_cons_self, shares⟩

/-! ## Calls that started before -/

/-- Since a login was completed, every waiter but those that started since has seen fewer logins,
and there is an outcome for each of them: that of this login, unless another one has ended. -/
structure Gate.Owes (c : TokenCache) (since : Past Event Reply) (g : Gate) : Prop where
  shares : g.cache.Shares
  waiters : ∀ w ∈ g.queue ++ g.coming,
    w.observed < g.cache.attempts ∨ ∃ e ∈ since, e.1 = .arrive w.caller
  same : NoneEnds since → g.cache = c

theorem Gate.Owes.step {since : Past Event Reply} (owes : g.Owes c since)
    (move : g.Moves e reply g') (kept : e ≠ .clear) : g'.Owes c ((e, reply) :: since) where
  shares := by
    cases move with
    | completes _ => exact shares_record _ _
    | clears => exact absurd rfl kept
    | _ => exact owes.shares
  waiters := by
    intro w waiting
    rcases move.waiter_before waiting with old | ⟨rfl, _, _⟩
    · rcases owes.waiters w old with fewer | ⟨e', here, came⟩
      · exact .inl (Nat.lt_of_lt_of_le fewer move.attempts_le)
      · exact .inr ⟨e', List.mem_cons_of_mem _ here, came⟩
    · exact .inr ⟨_, List.mem_cons_self, rfl⟩
  same := by
    intro noneEnds
    obtain ⟨now, before⟩ := List.forall_mem_cons.1 noneEnds
    have same := owes.same before
    cases move with
    | completes _ => exact absurd rfl (now _ _)
    | clears => exact absurd rfl kept
    | _ => exact same

theorem Gate.Owes.run {since : Past Event Reply} (run : Run (Steps Gate.step) g since g')
    (owes : g.Owes c []) (kept : Uncleared since) : g'.Owes c since := by
  induction run with
  | start => exact owes
  | @step past s s' e reply _ move ih =>
      obtain ⟨keptNow, keptBefore⟩ := List.forall_mem_cons.1 kept
      exact (ih keptBefore).step (Gate.moves_of_step move) keptNow

theorem Gate.owes_completed (seen : g.Seen) (login : Outcome Token) :
    Gate.Owes (g.cache.record login).2 []
      { g with cache := (g.cache.record login).2, holder := none } where
  shares := shares_record _ _
  waiters := by
    intro w waiting
    have before := seen w waiting
    rw [attempts_record]
    exact .inl (Nat.lt_succ_of_le before)
  same := fun _ => rfl

/-- A call that passes and has not started since shares an outcome. -/
theorem Gate.Owes.shared {since : Past Event Reply} {login : Outcome Token} {earlier : TokenCache}
    (owes : g.Owes (earlier.record login).2 since) {caller : Nat}
    (before : ∀ e ∈ since, e.1 ≠ .arrive caller)
    (passed : g.step (.enter caller) = some (g', reply)) :
    ∃ given, reply = some ⟨caller, given⟩ ∧ (NoneEnds since → given = (earlier.record login).1) := by
  obtain ⟨v, rest, first, rfl, rfl⟩ := Gate.first_of_step passed
  have fewer : v.observed < g.cache.attempts := by
    rcases owes.waiters v (by simp [first]) with fewer | ⟨e, here, came⟩
    · exact fewer
    · exact absurd came (before e here)
  obtain ⟨given, shared⟩ := owes.shares v.observed (Nat.ne_of_gt fewer)
  refine ⟨given, by rw [shared]; rfl, ?_⟩
  intro noneEnds
  have same := owes.same noneEnds
  rw [same] at fewer shared
  rw [shared?_record earlier login (Nat.ne_of_gt fewer)] at shared
  exact (Option.some.inj shared).symm

/-! ## The call that logs in -/

/-- A call that finds the gate idle, so that it starts, joins the queue and passes at once, logs in
itself. -/
theorem Gate.begins_alone {g₀ g₁ g₂ g₃ : Gate} {caller : Nat} {came joined begun : Option Reply}
    (arrive : g₀.step (.arrive caller) = some (g₁, came))
    (join : g₁.step (.join caller) = some (g₂, joined))
    (enter : g₂.step (.enter caller) = some (g₃, begun)) : begun = none := by
  cases Gate.moves_of_step arrive with
  | arrives absent =>
      cases Gate.moves_of_step join with
      | @joins _ w found named =>
          have others : ∀ v ∈ g₀.queue ++ g₀.coming, v.caller ≠ caller := by
            rintro v here rfl
            rw [Gate.present_of_waiting here] at absent
            cases absent
          -- Nobody else has its name, so what stands in the queue under it is what came.
          have own : w = ⟨caller, g₀.cache.attempts⟩ := by
            rcases List.mem_append.1 found with old | new
            · exact absurd named (others w (List.mem_append_right _ old))
            · exact List.mem_singleton.1 new
          obtain ⟨v, rest, first, named', rfl⟩ := Gate.first_of_step enter
          cases queue : g₀.queue with
          | nil =>
              simp only [queue, List.nil_append, List.cons.injEq] at first
              rw [← first.1, own, shared?_attempts]
              rfl
          | cons u queue' =>
              simp only [queue, List.cons_append, List.cons.injEq] at first
              rw [← first.1] at named'
              exact absurd named' (others u (by simp [queue]))

/-- Nobody logs in while a login is under way. -/
theorem noLogin_meanwhile (c : TokenCache) {runner : Nat} {base : Past Event Reply} :
    ∀ {during : Past Event Reply} {g : Gate},
      Run (Steps Gate.step) (Gate.idle c) (during ++ (.enter runner, none) :: base) g →
        (∀ e ∈ during, (∀ login, e.1 ≠ .complete runner login) ∧ e.1 ≠ .drop runner) →
          NoLogin during ∧ LoggingIn runner (during ++ (.enter runner, none) :: base) := by
  intro during
  induction during with
  | nil =>
      intro g _ _
      exact ⟨by simp [NoLogin], .begun⟩
  | cons e during ih =>
      intro g run unended
      obtain ⟨now, before⟩ := List.forall_mem_cons.1 unended
      cases run with
      | @step _ s _ event reply soFar move =>
          obtain ⟨noLogin, active⟩ := ih soFar before
          have holding := (Gate.agrees_of_run c soFar).holds runner active
          refine ⟨List.forall_mem_cons.2 ⟨?_, noLogin⟩, .later now.1 now.2 active⟩
          rintro caller same
          cases same
          cases Gate.moves_of_step move with
          | begins idle _ _ =>
              rw [holding] at idle
              cases idle

end Step

/-! ## Runs -/

/-- In any run, let a call find the gate idle, and let its login be completed; whatever has happened
before and meanwhile, let the token not be cleared since.  Then the call has run a login of its own,
nobody else has run one meanwhile, and it is answered with its outcome.  Every other call that had
joined the queue by then and still waits is answered the same when its turn comes, its turn comes by
nothing but others' passing who are answered the same, and until then nobody has logged in again.
The first call that starts afterwards, if it joins the queue before any other starts, logs in itself
when its turn comes, before which nobody else does.  A call that had started by then, however late
it joins the queue, is answered without a login of its own, and the same unless another login has
been completed. -/
theorem one_login_for_all (c : TokenCache) {since during earlier : Past Event Reply} {g : Gate}
    {runner : Nat} {login : Outcome Token} {begun : Option Reply} {r : Reply}
    (run : Run (Steps Gate.step) (Gate.idle c)
      (since ++ (.complete runner login, some r) :: (during ++ (.enter runner, begun) ::
        (.join runner, none) :: (.arrive runner, none) :: earlier)) g)
    (underWay : ∀ e ∈ during, (∀ other, e.1 ≠ .complete runner other) ∧ e.1 ≠ .drop runner)
    (kept : Uncleared since) :
    (begun = none ∧ NoLogin during ∧ r.caller = runner ∧ PassedOn login r.answer) ∧
      (∀ caller, Queued caller (during ++ (.enter runner, begun) ::
          (.join runner, none) :: (.arrive runner, none) :: earlier) → Undisturbed caller since →
        NoLogin since ∧ g.Turn caller r.answer (some ⟨caller, r.answer⟩)) ∧
      (∀ caller later first, since = later ++ first → FirstToStart caller first →
        Undisturbed caller later → NoLogin since ∧ g.Turn caller r.answer none) ∧
      ∀ caller g' reply, (∀ e ∈ since, e.1 ≠ .arrive caller) →
        g.step (.enter caller) = some (g', reply) →
          ∃ given, reply = some ⟨caller, given⟩ ∧ (NoneEnds since → given = r.answer) := by
  obtain ⟨g₁, atEnd, after⟩ := Run.split run
  cases atEnd with
  | @step _ g₀ _ _ _ soFar move =>
      have begins : begun = none := by
        obtain ⟨_, started, _⟩ := Run.split soFar
        cases started with
        | step joined enter =>
            cases joined with
            | step came join =>
                cases came with
                | step _ arrive => exact Gate.begins_alone arrive join enter
      have alone : NoLogin during := by
        rw [begins] at soFar
        exact (noLogin_meanwhile c soFar underWay).1
      have seen := Gate.seen_of_run c soFar
      have queued := Gate.queued_of_run c soFar
      cases Gate.moves_of_step move with
      | completes _ =>
          have serving := Gate.serving_completed seen login
          refine ⟨⟨begins, alone, rfl, passedOn_record _ _⟩, ?_, ?_, ?_⟩
          · intro caller waits undisturbed
            obtain ⟨w, others, rfl, shared, ahead⟩ := serving.ahead (queued caller waits)
            obtain ⟨⟨others', ahead'⟩, noLogin⟩ := Gate.Ahead.run after ahead kept undisturbed
            have turn := ahead'.turn
            rw [shared] at turn
            exact ⟨noLogin, turn⟩
          · rintro caller later first rfl starts undisturbed
            obtain ⟨keptLater, keptFirst⟩ := List.forall_mem_append.1 kept
            obtain ⟨g₂, untilThen, rest⟩ := Run.split after
            obtain ⟨others, ahead, noFirst⟩ := serving.first_to_start untilThen keptFirst starts
            obtain ⟨⟨others', ahead'⟩, noLater⟩ := Gate.Ahead.run rest ahead keptLater undisturbed
            have turn := ahead'.turn
            rw [shared?_attempts] at turn
            exact ⟨List.forall_mem_append.2 ⟨noLater, noFirst⟩, turn⟩
          · intro caller g' reply before passed
            exact (Gate.Owes.run after (Gate.owes_completed seen login) kept).shared before passed

/-- What a call is answered whose login, or whose share of one, timed out. -/
def timedOut : Outcome Token := .error (.authentication "Transport error: timed out")

/-- Two calls start while a login is under way; one of them joins the queue only after a fourth call
has started. -/
def lateJoiner : Past Event Reply :=
  [(.join 3, none), (.join 2, none), (.arrive 3, none)] ++
    (.complete 0 (.error (.transport none "timed out")), some ⟨0, timedOut⟩) ::
      ([(.arrive 2, none), (.join 1, none), (.arrive 1, none)] ++
        (.enter 0, none) :: (.join 0, none) :: (.arrive 0, none) :: [])

/-- The gate then: the login has failed, and three calls wait. -/
def threeWaiting : Gate :=
  ⟨⟨none, some "Transport error: timed out", 1, 0⟩, none, [⟨1, 0⟩, ⟨2, 0⟩, ⟨3, 1⟩], []⟩

theorem run_lateJoiner : Run (Steps Gate.step) (Gate.idle empty) lateJoiner threeWaiting := by
  refine Run.of_replay [.arrive 0, .join 0, .enter 0, .arrive 1, .join 1, .arrive 2,
    .complete 0 (.error (.transport none "timed out")), .arrive 3, .join 2, .join 3] .start ?_
  rfl

/-- The call that had joined the queue shares the failed login, and the fourth call logs in. -/
theorem lateJoiner_turns :
    Run (Steps Gate.step) (Gate.idle empty) lateJoiner threeWaiting ∧
      threeWaiting.Turn 1 timedOut (some ⟨1, timedOut⟩) ∧ threeWaiting.Turn 3 timedOut none := by
  obtain ⟨_, started, first, _⟩ := one_login_for_all empty run_lateJoiner
    (by simp) (by simp [Uncleared])
  refine ⟨run_lateJoiner, ?_, ?_⟩
  · have queued : Queued 1 ((.arrive 2, none) :: (.join 1, none) :: (.arrive 1, none) ::
        (.enter 0, none) :: (.join 0, none) :: [(.arrive 0, none)]) :=
      .later (by simp) (by simp) .joined
    exact (started 1 queued (by simp [Undisturbed])).2
  · have starts : FirstToStart 3 [(.join 3, none), (.join 2, none), (.arrive 3, none)] :=
      @FirstToStart.intro 3 [(.join 2, none)] [] (by simp [NoArrival]) (by simp [NoArrival])
        (by simp)
    exact (first 3 [] _ rfl starts (by simp [Undisturbed])).2

end TokenCache
end QuantumJobs

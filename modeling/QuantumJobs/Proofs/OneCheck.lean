import QuantumJobs.Counter
import QuantumJobs.Proofs.Run

/-!
# OneCheck — who is served at the counter

Where a call stands can be told from the past of a run alone: it comes, joins the queue, is served,
rests, checks, and is answered, dropped or late.  That the counter's fields agree with that past is
the invariant.  From it follows that at most one call makes a check, that the outcome is written
once, and that whoever is answered afterwards is answered with it.
-/

namespace QuantumJobs
namespace Counter

variable {c c' : Counter} {e : Event} {reply : Option (Nat × Reply)}

/-! ## Moves of the counter -/

/-- One way for every answer that `Counter.step` gives. -/
inductive Moves (c : Counter) : Event → Option (Nat × Reply) → Counter → Prop where
  /-- A call is answered before it queues. -/
  | greets {call : Nat} {demand : Demand} {asked : String} {answer : Outcome SampleResult} :
      c.present call = false → c.handle.known? asked = some answer →
        Moves c (.arrive call demand asked) (some (call, demand.reply answer)) c
  | arrives {call : Nat} {demand : Demand} {asked : String} :
      c.present call = false → c.handle.known? asked = none →
        Moves c (.arrive call demand asked) none
          { c with coming := c.coming ++ [(call, demand)] }
  | joins {call : Nat} {demand : Demand} : (call, demand) ∈ c.coming →
      Moves c (.join call) none
        { c with
          queue := c.queue ++ [(call, demand)]
          coming := c.coming.filter (·.1 ≠ call) }
  /-- A call's turn comes after the job has ended. -/
  | dismisses {call : Nat} {demand : Demand} {rest : List (Nat × Demand)} {o : JobOutcome} :
      c.service = none → c.queue = (call, demand) :: rest → c.handle.outcome = some o →
        Moves c (.serve call) (some (call, demand.reply o.answer)) { c with queue := rest }
  | serves {call : Nat} {demand : Demand} {rest : List (Nat × Demand)} :
      c.service = none → c.queue = (call, demand) :: rest → c.handle.outcome = none →
        Moves c (.serve call) none
          { c with service := some ⟨call, demand, firstWork demand⟩, queue := rest }
  | wakes {call : Nat} {demand : Demand} : c.service = some ⟨call, demand, .resting⟩ →
      Moves c (.wake call) none { c with service := some ⟨call, demand, .checking⟩ }
  /-- A check ends its call. -/
  | ends {call : Nat} {demand : Demand} {found : Check} {answer : Reply} :
      c.service = some ⟨call, demand, .checking⟩ → demand.verdict found = some answer →
        Moves c (.find call found) (some (call, answer))
          { c with handle := c.handle.settle found, service := none }
  /-- A wait finds on its next turn that the job has ended. -/
  | turns {call : Nat} {demand : Demand} {found : Check} {o : JobOutcome} :
      c.service = some ⟨call, demand, .checking⟩ → demand.verdict found = none →
        (c.handle.settle found).outcome = some o →
          Moves c (.find call found) (some (call, demand.reply o.answer))
            { c with handle := c.handle.settle found, service := none }
  | rests {call : Nat} {demand : Demand} {found : Check} :
      c.service = some ⟨call, demand, .checking⟩ → demand.verdict found = none →
        (c.handle.settle found).outcome = none →
          Moves c (.find call found) none
            { c with
              handle := c.handle.settle found
              service := some ⟨call, demand, .resting⟩ }
  | drops {call : Nat} : Moves c (.drop call) none (c.without call)
  | expires {call : Nat} : c.demandOf? call = some .timedWait →
      Moves c (.expire call) (some (call, .late)) (c.without call)

theorem moves_of_step (move : c.step e = some (c', reply)) : c.Moves e reply c' := by
  cases e with
  | arrive call demand asked =>
      unfold step at move
      by_cases here : c.present call
      · simp [here] at move
      · have absent : c.present call = false := by simpa using here
        simp only [absent] at move
        cases known : c.handle.known? asked with
        | some answer =>
            simp only [known] at move
            cases move
            exact .greets absent known
        | none =>
            simp only [known] at move
            cases move
            exact .arrives absent known
  | join call =>
      unfold step at move
      cases found : c.coming.find? (·.1 = call) with
      | none => simp [found] at move
      | some w =>
          obtain ⟨k, demand⟩ := w
          have named : k = call := by simpa using List.find?_some found
          subst named
          simp only [found] at move
          cases move
          exact .joins (List.mem_of_find?_eq_some found)
  | serve call =>
      unfold step at move
      cases free : c.service with
      | some _ => simp [free] at move
      | none =>
          cases first : c.queue with
          | nil => simp [free, first] at move
          | cons w rest =>
              obtain ⟨k, demand⟩ := w
              simp only [free, first] at move
              by_cases turn : k = call
              · subst turn
                cases settled : c.handle.outcome with
                | some o =>
                    simp only [settled, if_true] at move
                    cases move
                    rw [← free]
                    exact .dismisses free first settled
                | none =>
                    simp only [settled, if_true] at move
                    cases move
                    exact .serves free first settled
              · simp [turn] at move
  | wake call =>
      unfold step at move
      cases busy : c.service with
      | none => simp [busy] at move
      | some s =>
          obtain ⟨served, demand, work⟩ := s
          cases work with
          | checking => simp [busy] at move
          | resting =>
              simp only [busy] at move
              by_cases own : served = call
              · subst own
                simp only [if_true] at move
                cases move
                exact .wakes busy
              · simp [own] at move
  | find call found =>
      unfold step at move
      cases busy : c.service with
      | none => simp [busy] at move
      | some s =>
          obtain ⟨served, demand, work⟩ := s
          cases work with
          | resting => simp [busy] at move
          | checking =>
              simp only [busy] at move
              by_cases own : served = call
              · subst own
                simp only [if_true] at move
                cases verdict : demand.verdict found with
                | some answer =>
                    simp only [verdict] at move
                    cases move
                    exact .ends busy verdict
                | none =>
                    simp only [verdict] at move
                    cases settled : (c.handle.settle found).outcome with
                    | some o =>
                        simp only [settled] at move
                        cases move
                        exact .turns busy verdict settled
                    | none =>
                        simp only [settled] at move
                        cases move
                        exact .rests busy verdict settled
              · simp [own] at move
  | drop call =>
      cases move
      exact .drops
  | expire call =>
      unfold step at move
      by_cases timed : c.demandOf? call = some .timedWait
      · simp only [timed, if_true] at move
        cases move
        exact .expires timed
      · simp [timed] at move

/-- A handle changes only by what a check has found. -/
theorem Moves.handle_eq {c c' : Counter} {e : Event} {reply : Option (Nat × Reply)}
    (move : c.Moves e reply c') :
    c'.handle = c.handle ∨ ∃ found, c'.handle = c.handle.settle found := by
  cases move with
  | greets _ _ => exact .inl rfl
  | arrives _ _ => exact .inl rfl
  | joins _ => exact .inl rfl
  | dismisses _ _ _ => exact .inl rfl
  | serves _ _ _ => exact .inl rfl
  | wakes _ => exact .inl rfl
  | ends _ _ => exact .inr ⟨_, rfl⟩
  | turns _ _ _ => exact .inr ⟨_, rfl⟩
  | rests _ _ _ => exact .inr ⟨_, rfl⟩
  | drops => exact .inl rfl
  | expires _ => exact .inl rfl

/-! ## What a past says -/

/-- Where a call stands. -/
inductive Standing
  | away
  | coming (demand : Demand)
  | queued (demand : Demand)
  | resting (demand : Demand)
  | checking (demand : Demand)

/-- The call that an event is about. -/
def Event.call : Event → Nat
  | .arrive call _ _ => call
  | .join call => call
  | .serve call => call
  | .wake call => call
  | .find call _ => call
  | .drop call => call
  | .expire call => call

/-- Where a call stands after an event of its own; whoever is answered, dropped or late is away. -/
def Standing.after (s : Standing) : Event → Option (Nat × Reply) → Standing
  | .arrive _ demand _, none => .coming demand
  | .join _, none =>
      match s with
      | .coming demand => .queued demand
      | s => s
  | .serve _, none =>
      match s with
      | .queued .poll => .checking .poll
      | .queued demand => .resting demand
      | s => s
  | .wake _, none =>
      match s with
      | .resting demand => .checking demand
      | s => s
  | .find _ _, none =>
      match s with
      | .checking demand => .resting demand
      | s => s
  | _, _ => .away

def standing (call : Nat) : Past Event (Nat × Reply) → Standing
  | [] => .away
  | (e, reply) :: before =>
      if e.call = call then (standing call before).after e reply else standing call before

/-- What a call wanted when it arrived last. -/
inductive Wanted (call : Nat) (demand : Demand) : Past Event (Nat × Reply) → Prop where
  | arrived {asked : String} {reply : Option (Nat × Reply)} {before : Past Event (Nat × Reply)} :
      Wanted call demand ((.arrive call demand asked, reply) :: before)
  | later {e : Event} {reply : Option (Nat × Reply)} {before : Past Event (Nat × Reply)} :
      (∀ other asked, e ≠ .arrive call other asked) → Wanted call demand before →
        Wanted call demand ((e, reply) :: before)

theorem Wanted.unique {call : Nat} {demand other : Demand} {past : Past Event (Nat × Reply)}
    (first : Wanted call demand past) (second : Wanted call other past) : demand = other := by
  induction first with
  | arrived =>
      cases second with
      | arrived => rfl
      | later noArrival _ => exact absurd rfl (noArrival _ _)
  | later noArrival _ ih =>
      cases second with
      | arrived => exact absurd rfl (noArrival _ _)
      | later _ before => exact ih before

def Standing.demand? : Standing → Option Demand
  | .away => none
  | .coming demand => some demand
  | .queued demand => some demand
  | .resting demand => some demand
  | .checking demand => some demand

/-- No event but an arrival changes what a call wants. -/
theorem Standing.demand?_after {s : Standing} {demand : Demand}
    (wants : (s.after e reply).demand? = some demand) :
    s.demand? = some demand ∨ ∃ call asked, e = .arrive call demand asked := by
  unfold Standing.after at wants
  split at wants
  · simp only [demand?, Option.some.injEq] at wants
    subst wants
    exact .inr ⟨_, _, rfl⟩
  · left
    split at wants <;> simpa [demand?] using wants
  · left
    split at wants <;> simpa [demand?] using wants
  · left
    split at wants <;> simpa [demand?] using wants
  · left
    split at wants <;> simpa [demand?] using wants
  · cases wants

/-- Where a call stands, it wants what it wanted when it arrived. -/
theorem wanted_of_standing {call : Nat} {demand : Demand} :
    ∀ {past : Past Event (Nat × Reply)}, (standing call past).demand? = some demand →
      Wanted call demand past := by
  intro past
  induction past with
  | nil =>
      intro wants
      cases wants
  | cons newest before ih =>
      obtain ⟨e, reply⟩ := newest
      intro wants
      unfold standing at wants
      by_cases own : e.call = call
      · simp only [own, if_true] at wants
        by_cases fresh : ∃ other asked, e = .arrive call other asked
        · obtain ⟨other, asked, rfl⟩ := fresh
          -- A call that is answered as it arrives stands nowhere and wants nothing.
          cases reply with
          | some _ => cases wants
          | none =>
              cases wants
              exact .arrived
        · rcases Standing.demand?_after wants with old | ⟨k, asked, rfl⟩
          · refine .later ?_ (ih old)
            intro other asked same
            exact fresh ⟨other, asked, same⟩
          · exact absurd ⟨demand, asked, by rw [← own]; rfl⟩ fresh
      · simp only [own, if_false] at wants
        refine .later ?_ (ih wants)
        intro other asked same
        rw [same] at own
        exact own rfl

/-! ## Where the counter has a call -/

/-- The counter has a call where it stands. -/
def Has (c : Counter) (call : Nat) : Standing → Prop
  | .away => False
  | .coming demand => (call, demand) ∈ c.coming
  | .queued demand => (call, demand) ∈ c.queue
  | .resting demand => c.service = some ⟨call, demand, .resting⟩
  | .checking demand => c.service = some ⟨call, demand, .checking⟩

theorem not_has_of_absent {call : Nat} (absent : c.present call = false) (s : Standing) :
    ¬ c.Has call s := by
  intro has
  unfold present demandOf? at absent
  simp only [Bool.or_eq_false_iff, Option.isSome_eq_false_iff, Option.isNone_iff_eq_none,
    Option.or_eq_none_iff, Option.map_eq_none_iff, List.find?_eq_none, List.any_eq_false] at absent
  obtain ⟨⟨noService, noQueue⟩, noComing⟩ := absent
  cases s with
  | away => exact has
  | coming demand => simpa using noComing _ has
  | queued demand => simpa using noQueue _ has
  | resting demand =>
      rw [show c.service = _ from has] at noService
      simp at noService
  | checking demand =>
      rw [show c.service = _ from has] at noService
      simp at noService

/-- A call that is to run into its deadline is queued or served. -/
theorem has_of_demandOf? {call : Nat} {demand : Demand}
    (wants : c.demandOf? call = some demand) :
    c.Has call (.queued demand) ∨ c.Has call (.resting demand) ∨ c.Has call (.checking demand) := by
  unfold demandOf? at wants
  rcases Option.or_eq_some_iff.1 wants with served | ⟨_, queued⟩
  · right
    simp only [Option.map_eq_some_iff, Option.filter_eq_some_iff, decide_eq_true_eq] at served
    obtain ⟨⟨k, d, work⟩, ⟨busy, named⟩, same⟩ := served
    cases named
    cases same
    cases work with
    | resting => exact .inl busy
    | checking => exact .inr busy
  · left
    simp only [Option.map_eq_some_iff] at queued
    obtain ⟨⟨k, d⟩, found, same⟩ := queued
    have named : k = call := by simpa using List.find?_some found
    cases named
    cases same
    exact List.mem_of_find?_eq_some found

/-- A call that has left is nowhere at the counter. -/
theorem not_has_without (call : Nat) (s : Standing) : ¬ (c.without call).Has call s := by
  intro has
  cases s with
  | away => exact has
  | coming demand => simp [Has, without] at has
  | queued demand => simp [Has, without] at has
  | resting demand => simp [Has, without, Option.filter_eq_some_iff] at has
  | checking demand => simp [Has, without, Option.filter_eq_some_iff] at has

/-- The others stay where they are when a call leaves. -/
theorem has_without_iff {call other : Nat} (ne : call ≠ other) (s : Standing) :
    (c.without call).Has other s ↔ c.Has other s := by
  have ne' : other ≠ call := fun same => ne same.symm
  cases s with
  | away => exact Iff.rfl
  | coming demand => simp [Has, without, ne']
  | queued demand => simp [Has, without, ne']
  | resting demand =>
      simp only [Has, without, Option.filter_eq_some_iff, decide_eq_true_eq]
      exact ⟨And.left, fun busy => ⟨busy, ne'⟩⟩
  | checking demand =>
      simp only [Has, without, Option.filter_eq_some_iff, decide_eq_true_eq]
      exact ⟨And.left, fun busy => ⟨busy, ne'⟩⟩

/-- A move changes the standing of no call but its own. -/
theorem Moves.has_other (move : c.Moves e reply c') {other : Nat} (ne : e.call ≠ other)
    (s : Standing) : c'.Has other s ↔ c.Has other s := by
  have ne' : other ≠ e.call := fun same => ne same.symm
  cases move with
  | greets _ _ => exact Iff.rfl
  | arrives _ _ => cases s <;> simp_all [Has, Event.call]
  | joins _ => cases s <;> simp_all [Has, Event.call]
  | dismisses _ first _ => cases s <;> simp_all [Has, Event.call]
  | serves _ first _ => cases s <;> simp_all [Has, Event.call]
  | wakes busy => cases s <;> simp_all [Has, Event.call]
  | ends busy _ => cases s <;> simp_all [Has, Event.call]
  | turns busy _ _ => cases s <;> simp_all [Has, Event.call]
  | rests busy _ _ => cases s <;> simp_all [Has, Event.call]
  | drops => exact has_without_iff ne s
  | expires _ => exact has_without_iff ne s

/-! ## The counter agrees with its past -/

structure Agrees (past : Past Event (Nat × Reply)) (c : Counter) : Prop where
  /-- Every call stands where the counter has it. -/
  stands : ∀ call s, c.Has call s → standing call past = s
  /-- Whom the counter has nowhere is away. -/
  away : ∀ call, (∀ s, ¬ c.Has call s) → standing call past = .away
  /-- No call waits twice. -/
  queuedOnce : (c.queue.map (·.1)).Nodup
  comingOnce : (c.coming.map (·.1)).Nodup
  /-- Nobody is served after the job has ended. -/
  unsettled : ∀ s, c.service = some s → c.handle.outcome = none

variable {past : Past Event (Nat × Reply)}

theorem agrees_opened (h : Handle) : (opened h).Agrees [] where
  stands := by
    intro call s has
    cases s with
    | away => exact has.elim
    | coming _ => simp [Has, opened] at has
    | queued _ => simp [Has, opened] at has
    | resting _ => simp [Has, opened] at has
    | checking _ => simp [Has, opened] at has
  away := by
    intro call _
    rfl
  queuedOnce := List.nodup_nil
  comingOnce := List.nodup_nil
  unsettled := by
    intro s busy
    cases busy

/-- A call stands at one place only. -/
theorem Agrees.one_place (agrees : c.Agrees past) {call : Nat} {s s' : Standing}
    (first : c.Has call s) (second : c.Has call s') : s = s' := by
  rw [← agrees.stands call s first, ← agrees.stands call s' second]

/-- Whoever makes a check is served. -/
theorem Agrees.checking_served (agrees : c.Agrees past) {call : Nat} {demand : Demand}
    (checks : standing call past = .checking demand) :
    c.service = some ⟨call, demand, .checking⟩ := by
  by_cases somewhere : ∃ s, c.Has call s
  · obtain ⟨s, has⟩ := somewhere
    have same : s = .checking demand := by rw [← agrees.stands call s has, checks]
    rw [same] at has
    exact has
  · have gone := agrees.away call (by simpa using somewhere)
    rw [checks] at gone
    cases gone

/-- The call that was first in the queue is nowhere in the rest of it. -/
theorem Agrees.not_mem_rest (agrees : c.Agrees past) {call : Nat} {demand : Demand}
    {rest : List (Nat × Demand)} (first : c.queue = (call, demand) :: rest) (other : Demand) :
    (call, other) ∉ rest := by
  intro again
  have once := agrees.queuedOnce
  rw [first, List.map_cons, List.nodup_cons] at once
  exact once.1 (List.mem_map.2 ⟨(call, other), again, rfl⟩)

/-- A call that was at one place is at another one if it has left the first and come to no third. -/
theorem Agrees.moved (agrees : c.Agrees past) {call : Nat} {old new s : Standing}
    (here : c.Has call old) (kept : s ≠ new → c.Has call s ∧ s ≠ old) : s = new := by
  by_cases there : s = new
  · exact there
  · obtain ⟨has, ne⟩ := kept there
    exact absurd (agrees.one_place has here) ne

/-- After a move its own call stands where the counter has it. -/
theorem Agrees.stands_own (agrees : c.Agrees past) (move : c.Moves e reply c') (s : Standing)
    (has : c'.Has e.call s) : (standing e.call past).after e reply = s := by
  cases move with
  | greets absent _ => exact absurd has (not_has_of_absent absent s)
  | @arrives call demand asked absent _ =>
      have nowhere := not_has_of_absent absent
      cases s with
      | away => exact has.elim
      | coming other =>
          rcases List.mem_append.1 has with old | new
          · exact absurd old (nowhere (.coming other))
          · cases List.mem_singleton.1 new
            rfl
      | queued other => exact absurd has (nowhere (.queued other))
      | resting other => exact absurd has (nowhere (.resting other))
      | checking other => exact absurd has (nowhere (.checking other))
  | @joins call demand found =>
      have here : c.Has call (.coming demand) := found
      have new : s = .queued demand := by
        apply agrees.moved here
        intro ne
        cases s <;> simp_all [Has, Event.call]
      rw [new, show (Event.join call).call = call from rfl, agrees.stands call _ here]
      rfl
  | @dismisses call demand rest o free first settled =>
      have here : c.Has call (.queued demand) := by simp [Has, first]
      have gone : s = .away := by
        apply agrees.moved here
        intro ne
        have notInRest := agrees.not_mem_rest first
        cases s <;> simp_all [Has, Event.call]
      exact gone.symm
  | @serves call demand rest free first unsettled =>
      have here : c.Has call (.queued demand) := by simp [Has, first]
      have old : standing call past = .queued demand := agrees.stands call _ here
      have notInRest := agrees.not_mem_rest first
      rw [show (Event.serve call).call = call from rfl] at has ⊢
      -- A poll goes on with its check, a wait with its rest.
      cases demand with
      | poll =>
          have new : s = .checking .poll := by
            apply agrees.moved here
            intro ne
            cases s <;> simp_all [Has, firstWork]
          rw [new, old]
          rfl
      | wait =>
          have new : s = .resting .wait := by
            apply agrees.moved here
            intro ne
            cases s <;> simp_all [Has, firstWork]
          rw [new, old]
          rfl
      | timedWait =>
          have new : s = .resting .timedWait := by
            apply agrees.moved here
            intro ne
            cases s <;> simp_all [Has, firstWork]
          rw [new, old]
          rfl
  | @wakes call demand busy =>
      have here : c.Has call (.resting demand) := busy
      have new : s = .checking demand := by
        apply agrees.moved here
        intro ne
        cases s <;> simp_all [Has, Event.call]
      rw [new, show (Event.wake call).call = call from rfl, agrees.stands call _ here]
      rfl
  | @ends call demand found answer busy _ =>
      have here : c.Has call (.checking demand) := busy
      have gone : s = .away := by
        apply agrees.moved here
        intro ne
        cases s <;> simp_all [Has, Event.call]
      exact gone.symm
  | @turns call demand found o busy _ _ =>
      have here : c.Has call (.checking demand) := busy
      have gone : s = .away := by
        apply agrees.moved here
        intro ne
        cases s <;> simp_all [Has, Event.call]
      exact gone.symm
  | @rests call demand found busy _ _ =>
      have here : c.Has call (.checking demand) := busy
      have new : s = .resting demand := by
        apply agrees.moved here
        intro ne
        cases s <;> simp_all [Has, Event.call]
      rw [new, show (Event.find call found).call = call from rfl, agrees.stands call _ here]
      rfl
  | drops => exact absurd has (not_has_without _ s)
  | expires _ => exact absurd has (not_has_without _ s)

/-- After a move its own call is away if the counter has it nowhere. -/
theorem Moves.away_own (move : c.Moves e reply c') (nowhere : ∀ s, ¬ c'.Has e.call s)
    (s : Standing) : s.after e reply = .away := by
  cases move with
  | greets _ _ => rfl
  | @arrives call demand asked _ _ =>
      exact absurd (List.mem_append_right _ List.mem_cons_self) (nowhere (.coming demand))
  | @joins call demand _ =>
      exact absurd (List.mem_append_right _ List.mem_cons_self) (nowhere (.queued demand))
  | dismisses _ _ _ => rfl
  | @serves call demand rest _ _ _ =>
      cases demand with
      | poll => exact absurd rfl (nowhere (.checking .poll))
      | wait => exact absurd rfl (nowhere (.resting .wait))
      | timedWait => exact absurd rfl (nowhere (.resting .timedWait))
  | @wakes call demand _ => exact absurd rfl (nowhere (.checking demand))
  | ends _ _ => rfl
  | turns _ _ _ => rfl
  | @rests call demand found _ _ _ => exact absurd rfl (nowhere (.resting demand))
  | drops => rfl
  | expires _ => rfl

theorem Agrees.stands_step (agrees : c.Agrees past) (move : c.Moves e reply c') (call : Nat)
    (s : Standing) (has : c'.Has call s) : standing call ((e, reply) :: past) = s := by
  unfold standing
  by_cases own : e.call = call
  · subst own
    simp only [if_true]
    exact agrees.stands_own move s has
  · simp only [own, if_false]
    exact agrees.stands call s ((move.has_other own s).1 has)

theorem Agrees.away_step (agrees : c.Agrees past) (move : c.Moves e reply c') (call : Nat)
    (nowhere : ∀ s, ¬ c'.Has call s) : standing call ((e, reply) :: past) = .away := by
  unfold standing
  by_cases own : e.call = call
  · subst own
    simp only [if_true]
    exact move.away_own nowhere _
  · simp only [own, if_false]
    refine agrees.away call ?_
    intro s has
    exact nowhere s ((move.has_other own s).2 has)

theorem Agrees.queuedOnce_step (agrees : c.Agrees past) (move : c.Moves e reply c') :
    (c'.queue.map (·.1)).Nodup := by
  have once := agrees.queuedOnce
  cases move with
  | greets _ _ => exact once
  | arrives _ _ => exact once
  | @joins call demand found =>
      have here : c.Has call (.coming demand) := found
      rw [List.map_append, List.nodup_append]
      refine ⟨once, by simp, ?_⟩
      intro k waiting k' new same
      -- A call that is coming is not queued, since it stands in one place only.
      obtain ⟨⟨k, other⟩, queued, rfl⟩ := List.mem_map.1 waiting
      simp only [List.map_cons, List.map_nil, List.mem_singleton] at new
      subst new
      subst same
      have there : c.Has k (.queued other) := queued
      cases agrees.one_place here there
  | dismisses _ first _ =>
      rw [first] at once
      exact (List.nodup_cons.1 once).2
  | serves _ first _ =>
      rw [first] at once
      exact (List.nodup_cons.1 once).2
  | wakes _ => exact once
  | ends _ _ => exact once
  | turns _ _ _ => exact once
  | rests _ _ _ => exact once
  | drops => exact once.sublist (List.Sublist.map _ List.filter_sublist)
  | expires _ => exact once.sublist (List.Sublist.map _ List.filter_sublist)

theorem Agrees.comingOnce_step (agrees : c.Agrees past) (move : c.Moves e reply c') :
    (c'.coming.map (·.1)).Nodup := by
  have once := agrees.comingOnce
  cases move with
  | greets _ _ => exact once
  | @arrives call demand asked absent _ =>
      rw [List.map_append, List.nodup_append]
      refine ⟨once, by simp, ?_⟩
      intro k waiting k' new same
      obtain ⟨⟨k, other⟩, coming, rfl⟩ := List.mem_map.1 waiting
      simp only [List.map_cons, List.map_nil, List.mem_singleton] at new
      subst new
      subst same
      exact not_has_of_absent absent (.coming other) coming
  | joins _ => exact once.sublist (List.Sublist.map _ List.filter_sublist)
  | dismisses _ _ _ => exact once
  | serves _ _ _ => exact once
  | wakes _ => exact once
  | ends _ _ => exact once
  | turns _ _ _ => exact once
  | rests _ _ _ => exact once
  | drops => exact once.sublist (List.Sublist.map _ List.filter_sublist)
  | expires _ => exact once.sublist (List.Sublist.map _ List.filter_sublist)

theorem Agrees.unsettled_step (agrees : c.Agrees past) (move : c.Moves e reply c') (s : Service)
    (busy : c'.service = some s) : c'.handle.outcome = none := by
  cases move with
  | greets _ _ => exact agrees.unsettled s busy
  | arrives _ _ => exact agrees.unsettled s busy
  | joins _ => exact agrees.unsettled s busy
  | dismisses _ _ _ => exact agrees.unsettled s busy
  | serves _ _ unsettled => exact unsettled
  | wakes before => exact agrees.unsettled _ before
  | ends _ _ => cases busy
  | turns _ _ _ => cases busy
  | rests _ _ unsettled => exact unsettled
  | drops => exact agrees.unsettled s (Option.filter_eq_some_iff.1 busy).1
  | expires _ => exact agrees.unsettled s (Option.filter_eq_some_iff.1 busy).1

theorem Agrees.step (agrees : c.Agrees past) (move : c.Moves e reply c') :
    c'.Agrees ((e, reply) :: past) where
  stands := agrees.stands_step move
  away := agrees.away_step move
  queuedOnce := agrees.queuedOnce_step move
  comingOnce := agrees.comingOnce_step move
  unsettled := agrees.unsettled_step move

theorem agrees_of_run (h : Handle) {past : Past Event (Nat × Reply)} {c : Counter}
    (run : Run (Steps step) (opened h) past c) : c.Agrees past := by
  apply run.invariant (agrees_opened h)
  intro past s e reply s' agrees move
  exact agrees.step (moves_of_step move)

/-! ## The outcome -/

/-- Checks are made one at a time. -/
theorem Agrees.one_checking (agrees : c.Agrees past) {a b : Nat} {demand other : Demand}
    (first : standing a past = .checking demand) (second : standing b past = .checking other) :
    a = b := by
  have served := agrees.checking_served first
  rw [agrees.checking_served second] at served
  cases served
  rfl

/-- What a call is answered and what is stored when a check ends the job. -/
inductive Stored : Outcome SampleResult → JobOutcome → Prop where
  | result (result : SampleResult) : Stored (.ok result) (.done result)
  | fault (fault : Fault) : Stored (.error fault) (.failed (.ofFault fault))

/-- How a call is answered after the job has ended: with the outcome, as it wanted it, or not in
time, if it is still queued when its deadline passes. -/
inductive AnsweredAfter (o : JobOutcome) (before : Past Event (Nat × Reply)) :
    Event → Nat → Reply → Prop where
  | outcome {e : Event} {call : Nat} {demand : Demand} :
      Wanted call demand ((e, some (call, demand.reply o.answer)) :: before) →
        AnsweredAfter o before e call (demand.reply o.answer)
  | expired {call : Nat} : standing call before = .queued .timedWait →
      AnsweredAfter o before (.expire call) call .late

/-- A check that does not end a wait does not end the job. -/
theorem outcome?_of_verdict {demand : Demand} {found : Check}
    (goesOn : demand.verdict found = none) : found.outcome? = none := by
  cases found with
  | pending _ => rfl
  | interrupted _ => rfl
  | done _ => cases demand <;> cases goesOn
  | failed _ => cases demand <;> cases goesOn

/-- A check that ends the job answers its call with what it stores. -/
theorem stored_of_settle {h : Handle} {demand : Demand} {found : Check} {answer : Reply}
    {o : JobOutcome} (unsettled : h.outcome = none) (settled : (h.settle found).outcome = some o)
    (verdict : demand.verdict found = some answer) :
    ∃ given, Stored given o ∧ answer = demand.reply given := by
  cases found with
  | pending next =>
      rw [Handle.settle_of_outcome?_none rfl, unsettled] at settled
      cases settled
  | interrupted fault =>
      rw [Handle.settle_of_outcome?_none rfl, unsettled] at settled
      cases settled
  | done result =>
      simp only [Handle.settle, Check.outcome?, Handle.resolve, unsettled] at settled
      cases settled
      refine ⟨.ok result, .result result, ?_⟩
      cases demand <;> cases verdict <;> rfl
  | failed fault =>
      simp only [Handle.settle, Check.outcome?, Handle.resolve, unsettled] at settled
      cases settled
      refine ⟨.error fault, .fault fault, ?_⟩
      cases demand <;> cases verdict <;> rfl

/-- The move that ends the job is the end of a check; its call is answered with what is stored. -/
theorem Agrees.settling_step (agrees : c.Agrees past) (move : c.Moves e reply c') {o : JobOutcome}
    (unsettled : c.handle.outcome = none) (settled : c'.handle.outcome = some o) :
    ∃ call demand found given, e = .find call found ∧ standing call past = .checking demand ∧
      Stored given o ∧ reply = some (call, demand.reply given) := by
  -- No other move touches the handle.
  have unchanged : c'.handle = c.handle → False := by
    intro same
    rw [same, unsettled] at settled
    cases settled
  cases move with
  | greets _ _ => exact (unchanged rfl).elim
  | arrives _ _ => exact (unchanged rfl).elim
  | joins _ => exact (unchanged rfl).elim
  | dismisses _ _ _ => exact (unchanged rfl).elim
  | serves _ _ _ => exact (unchanged rfl).elim
  | wakes _ => exact (unchanged rfl).elim
  | @ends call demand found answer busy verdict =>
      obtain ⟨given, stored, rfl⟩ := stored_of_settle unsettled settled verdict
      have stands := agrees.stands call (.checking demand) busy
      exact ⟨call, demand, found, given, rfl, stands, stored, rfl⟩
  | turns _ goesOn _ =>
      exact (unchanged (Handle.settle_of_outcome?_none (outcome?_of_verdict goesOn))).elim
  | rests _ _ pending =>
      rw [pending] at settled
      cases settled
  | drops => exact (unchanged rfl).elim
  | expires _ => exact (unchanged rfl).elim

/-- After the job has ended, nobody is served. -/
theorem Agrees.not_served (agrees : c.Agrees past) {o : JobOutcome}
    (settled : c.handle.outcome = some o) {s : Service} : c.service ≠ some s := by
  intro busy
  rw [agrees.unsettled s busy] at settled
  cases settled

/-- After the job has ended, a move leaves the outcome and answers with it. -/
theorem Agrees.settled_step (agrees : c.Agrees past) (move : c.Moves e reply c') {o : JobOutcome}
    (settled : c.handle.outcome = some o) :
    c'.handle.outcome = some o ∧
      ∀ call answer, reply = some (call, answer) → AnsweredAfter o past e call answer := by
  cases move with
  | @greets call demand asked answer _ known =>
      refine ⟨settled, ?_⟩
      intro k given same
      cases same
      have isOutcome : o.answer = answer := by
        simpa [Handle.known?, settled] using known
      subst isOutcome
      exact .outcome .arrived
  -- Whoever arrives after the end is answered at once, and nobody is served.
  | arrives _ unknown => simp [Handle.known?, settled] at unknown
  | joins _ =>
      refine ⟨settled, ?_⟩
      intro k given same
      cases same
  | @dismisses call demand rest o' _ first settled' =>
      rw [settled] at settled'
      cases settled'
      refine ⟨settled, ?_⟩
      intro k given same
      cases same
      have here : c.Has call (.queued demand) := by simp [Has, first]
      -- What the queue says the call wants is what it wanted when it arrived.
      have wanted : Wanted call demand past := by
        apply wanted_of_standing
        rw [agrees.stands call _ here]
        rfl
      exact .outcome (.later (by intros; simp) wanted)
  | serves _ _ unsettled =>
      rw [unsettled] at settled
      cases settled
  | wakes busy => exact absurd busy (agrees.not_served settled)
  | ends busy _ => exact absurd busy (agrees.not_served settled)
  | turns busy _ _ => exact absurd busy (agrees.not_served settled)
  | rests busy _ _ => exact absurd busy (agrees.not_served settled)
  | drops =>
      refine ⟨settled, ?_⟩
      intro k given same
      cases same
  | @expires call timed =>
      refine ⟨settled, ?_⟩
      intro k given same
      cases same
      rcases has_of_demandOf? timed with queued | resting | checking
      · exact .expired (agrees.stands call _ queued)
      · exact absurd resting (agrees.not_served settled)
      · exact absurd checking (agrees.not_served settled)

end Counter
end QuantumJobs

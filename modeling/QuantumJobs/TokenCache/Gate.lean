import QuantumJobs.TokenCache.Basic

/-!
# Gate — one login at a time

Callers that want a refresh queue at a gate and pass it one after another in the order in which they
joined the queue.  A caller that passes either shares the outcome of a login completed since it
arrived, or holds the gate while its own login is under way.  A caller may be dropped at any moment,
and the token may be cleared at any moment.

A call starts when its caller arrives, that is, when it notes how many logins have been completed.
It joins the queue in a step of its own, and others may move in between.
-/

namespace QuantumJobs
namespace TokenCache

/-- A caller that has arrived and the number of completed logins that it saw on arrival. -/
structure Waiter where
  caller : Nat
  observed : Nat
  deriving DecidableEq, Repr

/-- A token cache with the callers at its gate. -/
structure Gate where
  cache : TokenCache
  /-- The caller whose login is under way. -/
  holder : Option Nat
  queue : List Waiter
  /-- Callers that have arrived and have not joined the queue yet. -/
  coming : List Waiter
  deriving Inhabited

/-- What can happen at the gate. -/
inductive Event
  /-- A caller comes and notes how many logins have been completed. -/
  | arrive (caller : Nat)
  /-- A caller that has arrived joins the queue; others may come in between. -/
  | join (caller : Nat)
  /-- The first caller in the queue passes the idle gate. -/
  | enter (caller : Nat)
  /-- The login that a caller runs ends. -/
  | complete (caller : Nat) (login : Outcome Token)
  | drop (caller : Nat)
  | clear

/-- A caller and its answer. -/
structure Reply where
  caller : Nat
  answer : Outcome Token

namespace Gate

def idle (cache : TokenCache) : Gate := ⟨cache, none, [], []⟩

/-- Whether a caller is at the gate: it has not been answered and was not dropped. -/
def present (g : Gate) (caller : Nat) : Bool :=
  g.holder = some caller || (g.queue ++ g.coming).any (·.caller = caller)

/-- The gate after an event and the answer that the event gives, if the event can happen. -/
def step (g : Gate) : Event → Option (Gate × Option Reply)
  | .arrive caller =>
      if g.present caller then none
      else some ({ g with coming := g.coming ++ [⟨caller, g.cache.attempts⟩] }, none)
  | .join caller =>
      match g.coming.find? (·.caller = caller) with
      | some w =>
          some ({ g with
            queue := g.queue ++ [w]
            coming := g.coming.filter (·.caller ≠ caller) }, none)
      | none => none
  | .enter caller =>
      match g.holder, g.queue with
      | none, w :: rest =>
          if w.caller = caller then
            match g.cache.shared? w.observed with
            | some answer => some ({ g with queue := rest }, some ⟨caller, answer⟩)
            | none => some ({ g with holder := some caller, queue := rest }, none)
          else none
      | _, _ => none
  | .complete caller login =>
      if g.holder = some caller then
        let (answer, cache) := g.cache.record login
        some ({ g with cache, holder := none }, some ⟨caller, answer⟩)
      else none
  | .drop caller =>
      some ({ g with
        holder := if g.holder = some caller then none else g.holder
        queue := g.queue.filter (·.caller ≠ caller)
        coming := g.coming.filter (·.caller ≠ caller) }, none)
  | .clear => some ({ g with cache := g.cache.clear }, none)

/-- The gate after a caller has come and joined the queue at once. -/
def queued (g : Gate) (caller : Nat) : Option Gate := do
  let (g, _) ← g.step (.arrive caller)
  let (g, _) ← g.step (.join caller)
  some g

end Gate
end TokenCache
end QuantumJobs

import QuantumJobs.Counter

/-!
# Desk — several calls on handles at once

Calls on several handles share a clock, a network and the state of their backends; each handle has a
counter.  Calls move one at a time: at an instant the ready calls take turns, and when none is ready
the clock goes to the earliest moment at which a rest ends.
-/

namespace QuantumJobs

variable {σ τ : Type}

/-- Where a call stands. -/
inductive Stage
  | arriving
  | queued
  /-- Served, and resting until a moment; of rests that end together the earlier ticket goes on
  first. -/
  | resting (till : Span) (ticket : Nat)
  | ended (time : Span) (reply : Reply)

structure Call (σ : Type) where
  backend : Backend σ
  /-- The handle that the call is about. -/
  key : String
  demand : Demand
  stage : Stage

structure Desk (σ τ : Type) where
  now : Span
  counters : Dict Counter
  line : Line σ τ
  calls : List (Call σ)
  /-- The calls that can move at this instant, in the order of their turns. -/
  ready : List Nat
  nextTicket : Nat

namespace Desk

def handles (d : Desk σ τ) : Dict Handle := d.counters.map fun _ c => c.handle

/-- Puts a call into a stage. -/
def place (d : Desk σ τ) (i : Nat) (stage : Stage) : Desk σ τ :=
  { d with calls := d.calls.modify i fun c => { c with stage } }

/-- Lets a call rest. -/
def rest (d : Desk σ τ) (i : Nat) (delay : Span) : Desk σ τ :=
  { d.place i (.resting (d.now + delay.asRest) d.nextTicket) with nextTicket := d.nextTicket + 1 }

def setCounter (d : Desk σ τ) (key : String) (c : Counter) : Desk σ τ :=
  { d with counters := d.counters.insert key c }

def finish (d : Desk σ τ) (i : Nat) (reply : Reply) : Desk σ τ :=
  d.place i (.ended d.now reply)

/-- After a call has left its counter, the next one in the queue can move. -/
def callNext (d : Desk σ τ) (c : Counter) : Desk σ τ :=
  { d with ready := d.ready ++ c.next?.toList }

/-- Makes a status check for the call that is served. -/
def check (net : Network τ) (time : Instant) (d : Desk σ τ) (i : Nat) (call : Call σ)
    (c : Counter) : Desk σ τ :=
  let (found, line) := (call.backend.check c.handle).run net time d.line
  let d := { d with line }
  match c.step (.find i found) with
  | some (c, some (_, reply)) => ((d.setCounter call.key c).finish i reply).callNext c
  | some (c, none) =>
      match found with
      | .pending next => (d.setCounter call.key c).rest i next
      | _ => d.setCounter call.key c
  | none => d

/-- Goes on after a rest. -/
def wake (net : Network τ) (time : Instant) (d : Desk σ τ) (i : Nat) (call : Call σ)
    (c : Counter) : Desk σ τ :=
  match c.step (.wake i) with
  | some (c, _) => check net time d i call c
  | none => d

/-- Serves the first call in the queue.  A wait without an initial delay checks at once. -/
def serve (net : Network τ) (time : Instant) (d : Desk σ τ) (i : Nat) (call : Call σ)
    (c : Counter) : Desk σ τ :=
  match c.step (.serve i) with
  | some (c, some (_, reply)) => ((d.setCounter call.key c).finish i reply).callNext c
  | some (c, none) =>
      let d := d.setCounter call.key c
      match call.demand with
      | .poll => check net time d i call c
      | .wait | .timedWait =>
          if c.handle.initialDelay = Span.zero then wake net time d i call c
          else d.rest i c.handle.initialDelay
  | none => d

/-- A call arrives, and is served at once if nobody is before it. -/
def arrive (net : Network τ) (time : Instant) (d : Desk σ τ) (i : Nat) (call : Call σ)
    (c : Counter) : Desk σ τ :=
  match c.queued i call.demand (call.backend.name d.line.state) with
  | some (_, some (_, reply)) => d.finish i reply
  | some (c, none) =>
      if c.next? = some i then serve net time d i call c
      else (d.setCounter call.key c).place i .queued
  | none => d

/-- A call's turn. -/
def turn (net : Network τ) (time : Instant) (d : Desk σ τ) (i : Nat) (call : Call σ)
    (c : Counter) : Desk σ τ :=
  match call.stage with
  | .arriving => arrive net time d i call c
  | .queued => serve net time d i call c
  | .resting _ _ => wake net time d i call c
  | .ended _ _ => d

/-- The moment and ticket of a rest. -/
def restOf (call : Call σ) : Option (Nat × Nat) :=
  match call.stage with
  | .resting till ticket => some (till.nanos, ticket)
  | _ => none

/-- The resting calls whose rest ends first, in the order of their tickets, and that moment. -/
def nextRests (d : Desk σ τ) : Option (Span × List Nat) :=
  let rests := d.calls.zipIdx.filterMap fun (call, i) =>
    (restOf call).map fun (till, ticket) => (till, ticket, i)
  match (rests.map (·.1)).min? with
  | none => none
  | some first =>
      let due := (rests.filter (·.1 = first)).mergeSort fun a b => a.2.1 ≤ b.2.1
      some (⟨first⟩, due.map (·.2.2))

/-- Takes turns until all calls have ended, for at most `turns` turns and instants. -/
def run (net : Network τ) (time : Instant) : Nat → Desk σ τ → Desk σ τ
  | 0, d => d
  | turns + 1, d =>
      match d.ready with
      | i :: ready =>
          let d := { d with ready }
          match d.calls[i]? with
          | none => run net time turns d
          | some call =>
              match d.counters.get? call.key with
              | none => run net time turns d
              | some c => run net time turns (turn net time d i call c)
      | [] =>
          match d.nextRests with
          | none => d
          | some (now, ready) => run net time turns { d with now, ready }

/-- Lets calls that arrive together, in list order, run on handles. -/
def serveAll (net : Network τ) (time : Instant) (turns : Nat) (handles : Dict Handle)
    (line : Line σ τ) (calls : List (Backend σ × String × Demand)) : Desk σ τ :=
  run net time turns {
    now := .zero
    counters := handles.map fun _ h => .opened h
    line
    calls := calls.map fun (backend, key, demand) => ⟨backend, key, demand, .arriving⟩
    ready := List.range calls.length
    nextTicket := 0 }

end Desk
end QuantumJobs

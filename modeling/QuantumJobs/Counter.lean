import QuantumJobs.Polling

/-!
# Counter — one status check at a time

Calls that poll a handle or wait for its job queue at a counter and are served one after another in
the order of their arrival.  A poll is served with one status check; a wait keeps its place and
rests before each of its checks.  Whoever arrives, is served or is about to rest after the job has
ended is answered with the outcome.  A call may be dropped, and a wait that has a deadline may run
into it, at any moment.
-/

namespace QuantumJobs

/-- What a call wants of a handle. -/
inductive Demand
  | poll
  | wait
  /-- To wait until a deadline. -/
  | timedWait
  deriving DecidableEq, Repr

/-- What a call is answered. -/
inductive Reply
  | poll (answer : Outcome Poll)
  | wait (answer : Outcome SampleResult)
  /-- The deadline has passed. -/
  | late
  deriving Inhabited

/-- The answer to a call whose outcome is known without a check. -/
def Demand.reply (d : Demand) (answer : Outcome SampleResult) : Reply :=
  match d with
  | .poll => .poll (answer.map .done)
  | .wait | .timedWait => .wait answer

/-- The answer that a check gives to a call, if it ends the call. -/
def Demand.verdict (d : Demand) (found : Check) : Option Reply :=
  match d with
  | .poll => some (.poll found.poll)
  | .wait | .timedWait => (Wait.verdict found).map .wait

/-- What the call that is served is at. -/
inductive Work
  | resting
  | checking
  deriving DecidableEq, Repr

structure Service where
  call : Nat
  demand : Demand
  work : Work
  deriving DecidableEq, Repr

/-- A handle with the calls on it. -/
structure Counter where
  handle : Handle
  service : Option Service
  queue : List (Nat × Demand)
  /-- Calls that have arrived and have not joined the queue yet. -/
  coming : List (Nat × Demand)
  deriving Inhabited

namespace Counter

/-- What can happen at the counter. -/
inductive Event
  /-- A call arrives with a backend of the given name. -/
  | arrive (call : Nat) (demand : Demand) (asked : String)
  /-- A call that has arrived joins the queue; others may come in between. -/
  | join (call : Nat)
  /-- The first call in the queue is served. -/
  | serve (call : Nat)
  /-- The rest of a call ends and its check begins. -/
  | wake (call : Nat)
  /-- The check of a call ends. -/
  | find (call : Nat) (found : Check)
  | drop (call : Nat)
  /-- The deadline of a wait passes. -/
  | expire (call : Nat)

def opened (h : Handle) : Counter := ⟨h, none, [], []⟩

/-- The work that a call is served with first. -/
def firstWork : Demand → Work
  | .poll => .checking
  | .wait | .timedWait => .resting

/-- The counter without a call. -/
def without (c : Counter) (call : Nat) : Counter :=
  { c with
    service := c.service.filter (·.call ≠ call)
    queue := c.queue.filter (·.1 ≠ call)
    coming := c.coming.filter (·.1 ≠ call) }

/-- What a call that is served, or waits to be, wants. -/
def demandOf? (c : Counter) (call : Nat) : Option Demand :=
  ((c.service.filter (·.call = call)).map (·.demand)).or
    ((c.queue.find? (·.1 = call)).map (·.2))

/-- Whether a call is at the counter: it has not been answered and was not dropped. -/
def present (c : Counter) (call : Nat) : Bool :=
  (c.demandOf? call).isSome || c.coming.any (·.1 = call)

/-- The counter after an event and the answer that the event gives, if the event can happen. -/
def step (c : Counter) : Event → Option (Counter × Option (Nat × Reply))
  | .arrive call demand asked =>
      if c.present call then none
      else
        match c.handle.known? asked with
        | some answer => some (c, some (call, demand.reply answer))
        | none => some ({ c with coming := c.coming ++ [(call, demand)] }, none)
  | .join call =>
      match c.coming.find? (·.1 = call) with
      | some w =>
          some ({ c with
            queue := c.queue ++ [w]
            coming := c.coming.filter (·.1 ≠ call) }, none)
      | none => none
  | .serve call =>
      match c.service, c.queue with
      | none, (first, demand) :: queue =>
          if first = call then
            match c.handle.outcome with
            | some o => some ({ c with queue }, some (call, demand.reply o.answer))
            | none => some ({ c with service := some ⟨call, demand, firstWork demand⟩, queue }, none)
          else none
      | _, _ => none
  | .wake call =>
      match c.service with
      | some ⟨served, demand, .resting⟩ =>
          if served = call then
            some ({ c with service := some ⟨call, demand, .checking⟩ }, none)
          else none
      | _ => none
  | .find call found =>
      match c.service with
      | some ⟨served, demand, .checking⟩ =>
          if served = call then
            let handle := c.handle.settle found
            match demand.verdict found with
            | some reply => some ({ c with handle, service := none }, some (call, reply))
            | none =>
                match handle.outcome with
                | some o =>
                    some ({ c with handle, service := none }, some (call, demand.reply o.answer))
                | none => some ({ c with handle, service := some ⟨call, demand, .resting⟩ }, none)
          else none
      | _ => none
  | .drop call => some (c.without call, none)
  | .expire call =>
      if c.demandOf? call = some .timedWait then some (c.without call, some (call, .late)) else none

/-- The counter after a call has come and, unless it is answered at once, joined the queue. -/
def queued (c : Counter) (call : Nat) (demand : Demand) (asked : String) :
    Option (Counter × Option (Nat × Reply)) := do
  match ← c.step (.arrive call demand asked) with
  | (c, some reply) => some (c, some reply)
  | (c, none) => c.step (.join call)

/-- The call that can be served next. -/
def next? (c : Counter) : Option Nat :=
  match c.service, c.queue with
  | none, (call, _) :: _ => some call
  | _, _ => none

end Counter
end QuantumJobs

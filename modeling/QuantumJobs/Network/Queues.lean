import QuantumJobs.Request

/-!
# Queues — prepared answers by route

Answers are queued by method and path.  Taking from a queue removes its first answer as long as
another one follows; the last one stays and is taken again and again.
-/

namespace QuantumJobs

abbrev Route := Method × String

/-- A queue of answers for each route. -/
structure Queues (α : Type) where
  routes : List (Route × List α)
  deriving Inhabited

/-- What is taken from a queue. -/
inductive Taken (α : Type)
  | nothing
  /-- An answer that has left its queue. -/
  | removed (a : α)
  /-- The last answer, which stays. -/
  | kept (a : α)

namespace Queues

variable {α : Type}

def empty : Queues α := ⟨[]⟩

/-- The answers queued for a route. -/
def queue (q : Queues α) (route : Route) : List α :=
  (q.routes.lookup route).getD []

/-- Replaces the queue of a route. -/
def setQueue (q : Queues α) (route : Route) (answers : List α) : Queues α :=
  ⟨(route, answers) :: q.routes.filter (·.1 ≠ route)⟩

/-- Queues an answer. -/
def on (q : Queues α) (route : Route) (a : α) : Queues α :=
  q.setQueue route (q.queue route ++ [a])

def take (q : Queues α) (route : Route) : Taken α × Queues α :=
  match q.queue route with
  | [] => (.nothing, q)
  | [last] => (.kept last, q)
  | next :: rest => (.removed next, q.setQueue route rest)

/-- The number of queued answers. -/
def size (q : Queues α) : Nat :=
  q.routes.foldr (fun r n => r.2.length + n) 0

end Queues
end QuantumJobs

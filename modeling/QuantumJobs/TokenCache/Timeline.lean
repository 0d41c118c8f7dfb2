import QuantumJobs.Span
import QuantumJobs.TokenCache.Gate

/-!
# Timeline — refreshes under a clock

Several tasks share one token cache: each asks for a refresh or clears the token at a given time,
and a login takes a given time.  At each instant the tasks take turns in list order until none can
move; then the clock goes to the next instant at which one can.
-/

namespace QuantumJobs
namespace TokenCache

/-- What a task does when it starts. -/
inductive Action
  | login (lasts : Span) (ends : Outcome Token)
  | clear

structure Task where
  start : Span
  action : Action

/-- How far a task has come. -/
inductive Progress
  | coming
  | waiting
  | running (till : Span)
  | ended (time : Span) (answer : Option (Outcome Token)) (ranLogin : Bool)

/-- The number of moves that a task may still make. -/
def Progress.movesLeft : Progress → Nat
  | .coming => 3
  | .waiting => 2
  | .running _ => 1
  | .ended _ _ _ => 0

namespace Timeline

/-- Ends the login that a task runs. -/
def finish (now : Span) (index : Nat) (ends : Outcome Token) (g : Gate) : Progress × Gate :=
  match g.step (.complete index ends) with
  | some (g, some reply) => (.ended now (some reply.answer) true, g)
  | some (g, none) => (.ended now none true, g)
  | none => (.ended now none true, g)

/-- Passes the gate if it is the task's turn. -/
def pass (now : Span) (index : Nat) (lasts : Span) (ends : Outcome Token) (g : Gate) :
    Progress × Gate :=
  match g.step (.enter index) with
  | some (g, some reply) => (.ended now (some reply.answer) false, g)
  | some (g, none) =>
      if lasts = Span.zero then finish now index ends g else (.running (now + lasts.asRest), g)
  | none => (.waiting, g)

/-- A task's turn at an instant. -/
def turn (now : Span) (index : Nat) (task : Task) (g : Gate) : Progress → Progress × Gate
  | .coming =>
      if task.start.asRest ≤ now then
        match task.action with
        | .clear => (.ended now none false, (g.step .clear).elim g (·.1))
        | .login lasts ends => pass now index lasts ends ((g.queued index).getD g)
      else (.coming, g)
  | .waiting =>
      match task.action with
      | .login lasts ends => pass now index lasts ends g
      | .clear => (.waiting, g)
  | .running till =>
      match task.action with
      | .login _ ends => if till ≤ now then finish now index ends g else (.running till, g)
      | .clear => (.running till, g)
  | .ended time answer ranLogin => (.ended time answer ranLogin, g)

/-- One turn of every task, from position `index` on. -/
def sweep (now : Span) : Nat → List (Task × Progress) → Gate → List (Task × Progress) × Gate
  | _, [], g => ([], g)
  | index, (task, progress) :: rest, g =>
      let (progress, g) := turn now index task g progress
      let (rest, g) := sweep now (index + 1) rest g
      ((task, progress) :: rest, g)

def movesLeft (tasks : List (Task × Progress)) : Nat :=
  tasks.foldr (fun t n => t.2.movesLeft + n) 0

/-- The instant at which a task that now rests can move by itself. -/
def wakes : Task × Progress → Option Span
  | (task, .coming) => some task.start.asRest
  | (_, .running till) => some till
  | _ => none

/-- The first instant after `now` at which a task can move. -/
def nextInstant (now : Span) (tasks : List (Task × Progress)) : Option Span :=
  (((tasks.filterMap wakes).filter (now < ·)).map (·.nanos)).min?.map Span.mk

/-- Sweeps until no task can move any more.  Every second round makes a move, so twice the number
of moves that are left is enough fuel. -/
def run : Nat → Span → List (Task × Progress) → Gate → List (Task × Progress) × Gate
  | 0, _, tasks, g => (tasks, g)
  | fuel + 1, now, tasks, g =>
      let (after, g) := sweep now 0 tasks g
      if movesLeft after < movesLeft tasks then run fuel now after g
      else
        match nextInstant now after with
        | some t => run fuel t after g
        | none => (after, g)

end Timeline

/-- Runs tasks on a cache from time zero on; gives how each ended and the cache they leave. -/
def schedule (c : TokenCache) (tasks : List Task) : List Progress × TokenCache :=
  let (tasks, g) := Timeline.run (8 * tasks.length + 2) .zero (tasks.map (·, .coming)) (Gate.idle c)
  (tasks.map (·.2), g.cache)

end TokenCache
end QuantumJobs

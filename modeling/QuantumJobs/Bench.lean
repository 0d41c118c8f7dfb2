import QuantumJobs.Backend.Choice
import QuantumJobs.Backend.Plain
import QuantumJobs.Client
import QuantumJobs.Desk
import QuantumJobs.Fermioniq.Session
import QuantumJobs.Handle.Record
import QuantumJobs.Network.Script

/-!
# Bench — rehearsing the life of jobs

A bench has a network with prepared answers, named places for sessions and handles, and a clock that
only rests move.  On it jobs are submitted, polled, waited for and resumed without a server and
without delay.
-/

namespace QuantumJobs

/-- A session of the Fermioniq emulator or of a plain backend. -/
abbrev BenchSession := Fermioniq.Session ⊕ Plain.Session

instance : Inhabited BenchSession := ⟨.inl .fresh⟩

/-- The sessions of a bench, and the results that its plain backends have read. -/
structure Shelf where
  sessions : Dict BenchSession
  reads : List (String × Json)
  deriving Inhabited

namespace Shelf

/-- The session at a place. -/
def session (place : String) (s : Shelf) : BenchSession :=
  match s.sessions.get? place with
  | some (.inr p) => .inr { p with reads := s.reads }
  | some (.inl f) => .inl f
  | none => default

/-- Puts a new session at a place; the results read so far stay. -/
def setUp (place : String) (session : BenchSession) (s : Shelf) : Shelf :=
  { s with sessions := s.sessions.insert place session }

/-- Puts back the session of a place. -/
def putSession (place : String) (session : BenchSession) (s : Shelf) : Shelf :=
  { sessions := s.sessions.insert place session
    reads := match session with
      | .inr p => p.reads
      | .inl _ => s.reads }

end Shelf

structure Bench where
  registry : Registry BenchSession
  environment : Environment
  /-- The time of day, which stands still. -/
  time : Instant
  line : Line Shelf Script
  jobs : Dict Handle
  /-- How many requests and reads have been looked at. -/
  requestsSeen : Nat
  readsSeen : Nat
  deriving Inhabited

namespace Bench

/-- Fermioniq, the plain backends X and Y, and one under the name `alias` that calls itself X. -/
def standardRegistry : Registry BenchSession :=
  Dict.ofList [
    (Fermioniq.backendName, .inl .fresh),
    ("X", .inr (.fresh "X")),
    ("Y", .inr (.fresh "Y")),
    ("alias", .inr (.fresh "X"))]

def new (environment : Environment) (time : Instant) : Bench where
  registry := standardRegistry
  environment
  time
  line := ⟨⟨Dict.empty, []⟩, .empty, []⟩
  jobs := Dict.empty
  requestsSeen := 0
  readsSeen := 0

/-- The backend that works on the session at a place. -/
def backend (place : String) : Backend Shelf :=
  (Backend.choice Fermioniq.backend Plain.backend).within (Shelf.session place)
    (Shelf.putSession place)

def hasSession (b : Bench) (place : String) : Bool := b.line.state.sessions.contains place

/-- Runs a dialogue on the bench. -/
def talk {α : Type} (b : Bench) (d : Dialogue Shelf α) : α × Bench :=
  let (a, line) := d.run Script.network b.time b.line
  (a, { b with line })

/-- Connects; only a session that was taken into use is put at the place. -/
def connect (b : Bench) (place name : String) (c : Config) : Outcome Unit × Bench :=
  let (answer, after) := b.talk ((backend place).connectTo
    (b.registry.map fun _ session => Shelf.setUp place session b.line.state) b.environment
    name c)
  match answer with
  | .ok () => (.ok (), after)
  | .error fault => (.error fault, { after with line := { after.line with state := b.line.state } })

def resume (b : Bench) (place : String) (h : Handle) (overrides : Config) : Outcome Unit × Bench :=
  b.connect place h.backend (Backend.resumption h overrides)

def setJob (b : Bench) (key : String) (h : Handle) : Bench := { b with jobs := b.jobs.insert key h }

def submit (b : Bench) (place key : String) (kernels : List Kernel) : Outcome Handle × Bench :=
  match b.talk ((backend place).submit kernels) with
  | (.ok h, b) => (.ok h, b.setJob key h)
  | (.error fault, b) => (.error fault, b)

def poll (b : Bench) (place key : String) (h : Handle) : Outcome Poll × Bench :=
  let ((answer, h), b) := b.talk ((backend place).poll h)
  (answer, b.setJob key h)

/-- More status checks than any wait makes that ends: each one takes a prepared answer or meets the
one that stays. -/
def rounds (b : Bench) : Nat := b.line.wire.size + 2

/-- Waits for a job; gives the answer and the time that passed. -/
def waitFor (b : Bench) (place : String) (h : Handle) :
    Option (Outcome SampleResult) × Span × Handle × Bench :=
  let (answer, w) := Wait.run (backend place) Script.network b.time b.rounds h b.line
  (answer, w.elapsed, w.handle, { b with line := w.line })

def wait (b : Bench) (place key : String) (h : Handle) :
    Option (Outcome SampleResult) × Span × Bench :=
  let (answer, elapsed, h, b) := b.waitFor place h
  (answer, elapsed, b.setJob key h)

def waitUntil (b : Bench) (place key : String) (deadline : Span) (h : Handle) :
    Option (Outcome SampleResult) × Span × Bench :=
  let (answer, w) := Wait.runUntil (backend place) Script.network b.time deadline h b.line
  (answer, w.elapsed, { b with line := w.line, jobs := b.jobs.insert key w.handle })

/-- Submits and waits; the handle is not kept. -/
def execute (b : Bench) (place : String) (kernels : List Kernel) :
    Option (Outcome SampleResult) × Span × Bench :=
  match b.talk ((backend place).submit kernels) with
  | (.error fault, b) => (some (.error fault), .zero, b)
  | (.ok h, b) =>
      let (answer, elapsed, _, b) := b.waitFor place h
      (answer, elapsed, b)

/-- Serves calls that arrive together; each names a session and a job. -/
def serve (b : Bench) (calls : List (String × String × Demand)) : List (Span × Reply) × Bench :=
  let d := Desk.serveAll Script.network b.time (4 * (calls.length + 1) * b.rounds) b.jobs b.line
    (calls.map fun (place, key, demand) => (backend place, key, demand))
  let replies := d.calls.filterMap fun c =>
    match c.stage with
    | .ended time reply => some (time, reply)
    | _ => none
  (replies, { b with line := d.line, jobs := d.handles })

/-- The requests sent since the last look. -/
def newRequests (b : Bench) : List Request × Bench :=
  (b.line.sent.drop b.requestsSeen, { b with requestsSeen := b.line.sent.length })

/-- The results read since the last look. -/
def newReads (b : Bench) : List (String × Json) × Bench :=
  (b.line.state.reads.drop b.readsSeen, { b with readsSeen := b.line.state.reads.length })

end Bench
end QuantumJobs

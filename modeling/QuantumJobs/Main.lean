import QuantumJobs.CommandLine.Program
import QuantumJobs.Network.Replay
import QuantumJobs.Network.Wire
import Std.Async.DNS
import Std.Async.TCP
import Std.Time.DateTime.Timestamp

/-!
# Main — the program on a real system

The files that a command may look at are read first, and the command is run on them with the replies
that are known.  While it asks for more, what it has written and printed so far is passed on, the
open request is sent, and the command is run again with one reply more.
-/

namespace QuantumJobs
namespace Main

open CommandLine Std.Async

/-! ## Files -/

def contentsOf (bytes : ByteArray) : Files.Entry := .file (.ofBytes bytes.toList)

/-- What is at a location, if anything. -/
def look (l : Files.Location) : IO (Option Files.Entry) := do
  try
    return some (contentsOf (← IO.FS.readBinFile l.text))
  catch fault =>
    match fault with
    | .inappropriateType .. => return some .directory
    | _ => return none

/-- Notes what is on the way along segments, up to the first thing that is missing or a file. -/
def survey (t : Files.Tree) : Files.Location → List String → IO Files.Tree
  | _, [] => return t
  | l, s :: rest => do
      let next := if s = ".." then l.dropLast else l ++ [s]
      match ← look next with
      | some .directory => survey (t.put next .directory) next rest
      | some e => return t.put next e
      | none => return t

def surveyPath (t : Files.Tree) (p : Files.Path) : IO Files.Tree :=
  survey t (if Files.Path.isAbsolute p then [] else t.current) (Files.Path.segments p)

/-- The files that matter to a run. -/
def readFiles (home : Option Files.Path) (args : List String) : IO Files.Tree := do
  let current := (← IO.currentDir).toString
  let paths := match home, readArguments args with
    | some home, .command c =>
        let state := stateIn home
        state :: c.paths (jobsIn state)
    | _, _ => []
  let mut t : Files.Tree := ⟨Dict.empty, Files.Path.segments current⟩
  for p in current :: paths do
    t ← surveyPath t p
  return t

/-- Passes on the changes between two states of the files. -/
def writeFiles (before after : Files.Tree) : IO Unit := do
  for (l, e) in after.entries.entries do
    if before.entries.get? l ≠ some e then
      match e with
      | .directory => IO.FS.createDirAll l
      | .file (.text s) => IO.FS.writeFile l s
      | .file (.raw bytes) => IO.FS.writeBinFile l ⟨bytes.toArray⟩

/-! ## Network -/

partial def receive (client : TCP.Socket.Client) (bytes : ByteArray) : Async ByteArray := do
  match ← client.recv? 65536 with
  | some more => receive client (bytes ++ more)
  | none => return bytes

def addressOf (port : UInt16) : Std.Net.IPAddr → Std.Net.SocketAddress
  | .v4 addr => .v4 ⟨addr, port⟩
  | .v6 addr => .v6 ⟨addr, port⟩

/-- Sends a request and reads the reply; empty if the server cannot be reached. -/
def exchange (url : Url) (r : Http.Received) : IO (Option Http.Response) := do
  if url.scheme ≠ "http" then return none
  let some (host, port) := url.destination? | return none
  try
    Async.block do
      match (← DNS.getAddrInfo host.lookupText (toString port))[0]? with
      | none => return none
      | some address => do
          let client ← TCP.Socket.Client.mk
          client.connect (addressOf port.toUInt16 address)
          client.send (r.wireText url.place).toUTF8
          return Http.Response.ofBytes? (← receive client .empty).toList
  catch _ => return none

/-! ## Running -/

def environmentNames : List String :=
  [Fermioniq.apiKeyVariable, Fermioniq.accessIdVariable, Fermioniq.accessSecretVariable]

def readEnvironment : IO Environment := do
  let mut env : Environment := Dict.empty
  for name in environmentNames do
    if let some value ← IO.getEnv name then
      env := env.insert name value
  return env

def readClock : IO Instant := do
  let now := (← Std.Time.Timestamp.now).val
  let seconds : Int := now.second.val
  return ⟨seconds / 86400, (seconds % 86400).toNat, now.nano.val.toNat⟩

/-- What stays the same in a run. -/
structure Setting where
  args : List String
  environment : Environment
  home : Option Files.Path
  time : Instant
  files : Files.Tree

/-- Runs the program with the replies known so far. -/
def Setting.run (s : Setting) (replies : List (Option Http.Response)) :
    Ending × World Fermioniq.Session Replay :=
  runProgram (.standard Replay.network s.environment s.home s.time (replies.length + 2)) s.args
    (.fresh s.files (.ofReplies replies))

/-- Goes on until no request is open; `files`, `shown` and `rested` say what has been passed on. -/
partial def proceed (s : Setting) (replies : List (Option Http.Response)) (files : Files.Tree)
    (shown : String) (rested : Span) : IO UInt32 := do
  let (ending, w) := s.run replies
  writeFiles files w.files
  IO.print (ending.output.drop shown.length)
  (← IO.getStdout).flush
  match w.line.wire.unanswered with
  | none =>
      IO.eprint ending.errors
      return ending.exit.toUInt32
  | some (url, r) =>
      IO.sleep (w.rested - rested).millis.toUInt32
      let reply ← exchange url r
      proceed s (replies ++ [reply]) w.files ending.output w.rested

end Main
end QuantumJobs

open QuantumJobs Main in
def main (args : List String) : IO UInt32 := do
  let home := (← IO.getEnv "HOME").filter (· ≠ "")
  let files ← readFiles home args
  proceed ⟨args, ← readEnvironment, home, ← readClock, files⟩ [] files "" .zero

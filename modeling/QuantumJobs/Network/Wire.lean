import QuantumJobs.Network.Http

/-!
# Wire — HTTP messages as bytes

A request is written as an HTTP/1.1 message that asks the server to close the connection after its
reply, and the reply is read from all the bytes that came.
-/

namespace QuantumJobs
namespace Http

/-! ## Writing -/

def lineEnd : String := "\r\n"

/-- The lines before the body, and the body. -/
def Received.wireText (host : String) (r : Received) : String :=
  let body := if r.body.isNull && r.method = "GET" then "" else r.body.text
  let fixed := [("host", host), ("accept", "*/*"), ("connection", "close")]
    ++ (if body = "" then [] else [("content-length", toString body.utf8ByteSize)])
  r.method ++ " " ++ r.target ++ " HTTP/1.1" ++ lineEnd
    ++ String.join ((fixed ++ r.headers.entries).map fun e => e.1 ++ ": " ++ e.2 ++ lineEnd)
    ++ lineEnd ++ body

/-! ## Reading -/

/-- The bytes of a line without its end, and those behind it. -/
def cutLine : List UInt8 → Option (List UInt8 × List UInt8)
  | [] => none
  | 13 :: 10 :: rest => some ([], rest)
  | b :: rest => (cutLine rest).map fun (line, behind) => (b :: line, behind)

def asText (bs : List UInt8) : String := (Blob.ofBytes bs).lenient

/-- The header lines up to the empty one, and the body behind it. -/
def readHeaders : Nat → Headers → List UInt8 → Option (Headers × List UInt8)
  | 0, _, _ => none
  | fuel + 1, headers, bs => do
      let (line, rest) ← cutLine bs
      if line.isEmpty then some (headers, rest)
      else
        let (name, value) ← Text.splitFirst? ':' (asText line).toList
        let key := Text.asciiLower (String.ofList name)
        readHeaders fuel (headers.insert key (trimValue (String.ofList value))) rest

/-- The data of a body that is sent in chunks, each after a line with its size. -/
def readChunks : Nat → List UInt8 → Option (List UInt8)
  | 0, _ => none
  | fuel + 1, bs => do
      let (line, rest) ← cutLine bs
      let size ← Text.numeral? 16 ((asText line).toList.takeWhile fun c => c ≠ ';' && c ≠ ' ')
      if size = 0 then some []
      else if rest.length < size + 2 then none
      else do
        let more ← readChunks fuel (rest.drop (size + 2))
        some (rest.take size ++ more)

/-- The status in the first line of a reply. -/
def readStatus (line : String) : Option Nat :=
  match line.toList.splitOn ' ' with
  | _ :: status :: _ => Text.numeral? 10 status
  | _ => none

/-- Reads a whole reply. -/
def Response.ofBytes? (bs : List UInt8) : Option Response := do
  let (line, rest) ← cutLine bs
  let status ← readStatus (asText line)
  let (headers, body) ← readHeaders bs.length Dict.empty rest
  let body ←
    if (headers.get? "transfer-encoding").map Text.asciiLower = some "chunked" then
      readChunks body.length body
    else
      match (headers.get? "content-length").bind fun s => Text.numeral? 10 s.toList with
      | some n => if body.length < n then none else some (body.take n)
      | none => some body
  some ⟨status, .ofBytes body⟩

end Http
end QuantumJobs

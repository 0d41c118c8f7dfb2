import QuantumJobs.Network.Url
import QuantumJobs.Network.UrlPath

/-!
# UrlReader — reading URLs

A text is cleaned of white space at its ends and of line breaks, and cut into scheme, fragment and
query.  What is left is read by the kind of the scheme: a URL of the web has an authority and a
path, one of a file a path and perhaps a host, and one of any other scheme what its slashes announce.
-/

namespace QuantumJobs
namespace Url

/-! ## Cutting -/

/-- The text without white space and controls at its ends and without line breaks and tabs. -/
def clean (s : String) : List Char :=
  let isEnd (c : Char) : Bool := c.toNat ≤ 0x20
  (Text.dropEndWhile isEnd (s.toList.dropWhile isEnd)).filter fun c =>
    c ≠ '\t' && c ≠ '\n' && c ≠ '\r'

def isSchemeChar (c : Char) : Bool := c.isAlphanum || c = '+' || c = '-' || c = '.'

/-- The scheme in lower case, and what follows its colon. -/
def splitScheme? (cs : List Char) : Option (String × List Char) :=
  match Text.splitFirst? ':' cs with
  | some (c :: scheme, rest) =>
      if c.isAlpha && scheme.all isSchemeChar then
        some (Text.asciiLower (String.ofList (c :: scheme)), rest)
      else none
  | _ => none

/-- What stands before a mark, and what behind it if the mark is there. -/
def cutAt (mark : Char) (cs : List Char) : List Char × Option (List Char) :=
  match Text.splitFirst? mark cs with
  | some (before, behind) => (before, some behind)
  | none => (cs, none)

/-- What stands before the first colon outside brackets, and what behind it. -/
def cutPort (inside : Bool) : List Char → List Char × Option (List Char)
  | [] => ([], none)
  | c :: rest =>
      if c = ':' && !inside then ([], some rest)
      else
        let (host, port) := cutPort (c = '[' || (inside && c ≠ ']')) rest
        (c :: host, port)

def isWebSlash (c : Char) : Bool := c = '/' || c = '\\'

/-! ## Authorities -/

def isEncodedInUser (c : Char) : Bool := " \"<>`#?\x7b\x7d/:;=@[\\]^|".toList.contains c

def encodedUser (cs : List Char) : String := String.ofList (Percent.encode isEncodedInUser cs)

/-- A port other than the usual one; empty digits are no port. -/
def port? (usual : Option Nat) (digits : List Char) : Option (Option Nat) :=
  if digits.isEmpty then some none
  else do
    let n ← Text.numeral? 10 digits
    if n < 65536 then some (if some n = usual then none else some n) else none

/-- Host and port before the path, and what follows them.  The host may only be missing where it is
no domain, nobody asks, and there is no port. -/
def readPlace (usual : Option Nat) (user : String) (password : Option String) (cs : List Char) :
    Option (Authority × List Char) := do
  let isWeb := usual.isSome
  let (host, portText) := cutPort false cs
  if host.isEmpty && (isWeb || portText.isSome || user ≠ "" || password.isSome) then none
  else do
    let host ← Host.ofChars? isWeb host
    let digits := (portText.getD []).takeWhile Char.isDigit
    let rest := (portText.getD []).dropWhile Char.isDigit
    if rest.head?.all (· = '\\') then
      return (⟨user, password, host, ← port? usual digits⟩, rest)
    else none

/-- An authority, and the path behind it.  `hasMore` says whether query or fragment follow. -/
def readAuthority (usual : Option Nat) (hasMore : Bool) (cs : List Char) :
    Option (Authority × List Char) := do
  let isEnd (c : Char) : Bool := if usual.isSome then isWebSlash c else c = '/'
  let path := cs.dropWhile fun c => !isEnd c
  let (authority, rest) ←
    match Text.splitLast? '@' (cs.takeWhile fun c => !isEnd c) with
    | none => readPlace usual "" none (cs.takeWhile fun c => !isEnd c)
    | some ([], place) =>
        if place.isEmpty && (hasMore || !path.isEmpty) then none else readPlace usual "" none place
    | some (info, place) =>
        let (user, password) := cutAt ':' info
        let secret := password.filter (!·.isEmpty)
        readPlace usual (encodedUser user) (secret.map encodedUser) place
  return (authority, rest ++ path)

/-! ## Kinds of schemes -/

/-- A URL of the web: any number of slashes, an authority, and a path from the root. -/
def readWeb (usual : Nat) (hasMore : Bool) (cs : List Char) : Option (Authority × String) := do
  let (authority, path) ← readAuthority (some usual) hasMore (cs.dropWhile isWebSlash)
  let segments := UrlPath.pieces isWebSlash (path.drop 1)
  return (authority, UrlPath.text (UrlPath.resolve false [] segments))

def authorityOfHost (h : Host) : Authority := ⟨"", none, h, none⟩

/-- A URL of a file.  Its host stands between two slashes and a third; a drive has none, and the
local machine is not named. -/
def readFile (cs : List Char) : Option (Authority × String) :=
  let onPath (host : Host) (path : List Char) : Authority × String :=
    let segments := UrlPath.pieces isWebSlash path
    (authorityOfHost (if segments.any UrlPath.isDrive then .empty else host),
      UrlPath.text (UrlPath.ofFile segments))
  match cs with
  | a :: b :: rest =>
      if isWebSlash a && isWebSlash b then do
        let host := rest.takeWhile fun c => !isWebSlash c
        if host.isEmpty || UrlPath.isDrive host then return onPath .empty rest
        else do
          let read ← Host.ofChars? true host
          let path := rest.drop host.length
          if read = .name "localhost" then return onPath .empty path
          else return onPath read (path.drop 1)
      else some (onPath .empty (if isWebSlash a then b :: rest else cs))
  | [a] => some (onPath .empty (if isWebSlash a then [] else cs))
  | [] => some (onPath .empty [])

/-- A URL of another scheme: with an authority behind two slashes, with a path from the root behind
one, else with a text that is no path. -/
def readOther (hasMore : Bool) (cs : List Char) : Option (Option Authority × String) :=
  let fromRoot (path : List Char) : String :=
    UrlPath.text (UrlPath.resolve false [] (UrlPath.pieces (· = '/') path))
  match cs with
  | '/' :: '/' :: rest => do
      let (authority, path) ← readAuthority none hasMore rest
      let path := match path with
        | [] => ""
        | '/' :: path => fromRoot path
        | path => fromRoot path
      return (some authority, path)
  | '/' :: rest => some (none, fromRoot rest)
  | rest => some (none, String.ofList (Percent.encode (fun _ => false) rest))

/-! ## Reading -/

def isEncodedInQuery (isWeb : Bool) (c : Char) : Bool :=
  " \"#<>".toList.contains c || (isWeb && c = '\'')

def isEncodedInFragment (c : Char) : Bool := " \"<>`".toList.contains c

/-- Reads a URL; a text that is none gives nothing. -/
def read (s : String) : Option Url := do
  let (scheme, rest) ← splitScheme? (clean s)
  let (rest, fragment) := cutAt '#' rest
  let (rest, query) := cutAt '?' rest
  let hasMore := query.isSome || fragment.isSome
  let isFile : Bool := scheme = "file"
  let (authority, path) ←
    match usualPort? scheme with
    | some usual => (readWeb usual hasMore rest).map fun (a, path) => (some a, path)
    | none =>
        if isFile then (readFile rest).map fun (a, path) => (some a, path)
        else readOther hasMore rest
  let isWeb := (usualPort? scheme).isSome || isFile
  let encoded (pick : Char → Bool) (cs : List Char) : String :=
    String.ofList (Percent.encode pick cs)
  return ⟨scheme, authority, path, query.map (encoded (isEncodedInQuery isWeb)),
    fragment.map (encoded isEncodedInFragment)⟩

end Url
end QuantumJobs

import QuantumJobs.Dict
import QuantumJobs.Files.Obstacle
import QuantumJobs.Files.Path
import QuantumJobs.Text.Utf8

/-!
# Tree — directories and files

A tree says which directories and files exist.  Paths are followed segment by segment from the root
or from a current directory; every segment before the last must be a directory.
-/

namespace QuantumJobs
namespace Files

inductive Entry
  | directory
  | file (contents : Blob)
  deriving DecidableEq

/-- The names on the way from the root. -/
abbrev Location := List String

def Location.text (l : Location) : String := String.join (l.map ("/" ++ ·))

/-- The existing entries by the text of their location; the root is always there. -/
structure Tree where
  entries : Dict Entry
  /-- Where relative paths start. -/
  current : Location
  deriving Inhabited

namespace Tree

def entry? (t : Tree) (l : Location) : Option Entry :=
  if l.isEmpty then some .directory else t.entries.get? l.text

def put (t : Tree) (l : Location) (e : Entry) : Tree :=
  { t with entries := t.entries.insert l.text e }

/-- The longest name of a file or directory, in bytes. -/
def nameLimit : Nat := 255

/-- The longest path, in bytes. -/
def pathLimit : Nat := 4095

/-- Follows segments through directories. -/
def walk (t : Tree) : Location → List String → Except Obstacle Location
  | l, [] => .ok l
  | l, s :: rest =>
      if s = ".." then walk t l.dropLast rest
      else if nameLimit < s.utf8ByteSize then .error .nameTooLong
      else
        match t.entry? (l ++ [s]) with
        | none => .error .notFound
        | some (.file _) => .error .notDirectory
        | some .directory => walk t (l ++ [s]) rest

/-- Where a path leads. -/
inductive Target
  /-- To a directory, which it follows to the end. -/
  | directory
  /-- To a name in a directory, whether or not something has it. -/
  | named (dir : Location) (name : String)

def locate (t : Tree) (p : Path) : Except Obstacle Target :=
  let start := if Path.isAbsolute p then [] else t.current
  if p.toList.contains '\x00' then .error .nulInName
  else if p = "" then .error .notFound
  else if pathLimit < p.utf8ByteSize then .error .nameTooLong
  else
    match Path.lastName? p with
    | some name => (t.walk start (Path.segments p).dropLast).map (.named · name)
    | none => (t.walk start (Path.segments p)).map fun _ => .directory

/-- What has a name in a directory. -/
def lookUp (t : Tree) (dir : Location) (name : String) : Except Obstacle (Option Entry) :=
  if nameLimit < name.utf8ByteSize then .error .nameTooLong else .ok (t.entry? (dir ++ [name]))

/-- What is at a path. -/
def find (t : Tree) (p : Path) : Except Obstacle Entry := do
  match ← t.locate p with
  | .directory => .ok .directory
  | .named dir name =>
      match ← t.lookUp dir name with
      | none => .error .notFound
      | some .directory => .ok .directory
      | some (.file contents) =>
          if Path.endsInSlash p then .error .notDirectory else .ok (.file contents)

def doesExist (t : Tree) (p : Path) : Bool := (t.find p).isOk

def isDirectory (t : Tree) (p : Path) : Bool :=
  match t.find p with
  | .ok .directory => true
  | _ => false

/-! ## Reading -/

def read (t : Tree) (p : Path) : Except Obstacle Blob := do
  match ← t.find p with
  | .directory => .error .isDirectory
  | .file contents => .ok contents

/-- Reads a file whose contents must be text. -/
def readText (t : Tree) (p : Path) : Except Obstacle String := do
  match ← t.read p with
  | .text s => .ok s
  | .raw _ => .error .notText

/-! ## Writing -/

/-- Replaces or creates a file; a path that can only be a directory's is refused before the file is
looked for. -/
def write (t : Tree) (p : Path) (contents : Blob) : Except Obstacle Tree := do
  match ← t.locate p with
  | .directory => .error .isDirectory
  | .named dir name =>
      if Path.endsInSlash p then .error .isDirectory
      else
        match ← t.lookUp dir name with
        | some .directory => .error .isDirectory
        | _ => .ok (t.put (dir ++ [name]) (.file contents))

/-! ## Directories -/

def makeDirectory (t : Tree) (p : Path) : Except Obstacle Tree := do
  match ← t.locate p with
  | .directory => .error .alreadyExists
  | .named dir name =>
      match ← t.lookUp dir name with
      | some _ => .error .alreadyExists
      | none => .ok (t.put (dir ++ [name]) .directory)

/-- The path of segments, from the root or from the current directory. -/
def pathOf (absolute : Bool) (segments : List String) : Path :=
  (if absolute then "/" else "") ++ "/".intercalate segments

/-- Makes a directory whose parent exists, or finds that it exists already. -/
def ensureDirectory (t : Tree) (p : Path) : Except Obstacle Tree :=
  match t.makeDirectory p with
  | .ok t => .ok t
  | .error fault => if t.isDirectory p then .ok t else .error fault

/-- Makes a directory with all its parents; its segments stand in reverse. -/
def makeAll (t : Tree) (absolute : Bool) : List String → Except Obstacle Tree
  | [] => .ok t
  | last :: parents =>
      let p := pathOf absolute (last :: parents).reverse
      match t.ensureDirectory p with
      | .error .notFound => do
          let t ← t.makeAll absolute parents
          t.ensureDirectory p
      | result => result

/-- Makes a directory with all its parents. -/
def makeDirectories (t : Tree) (p : Path) : Except Obstacle Tree :=
  t.makeAll (Path.isAbsolute p) (Path.segments p).reverse

/-- Makes the directory that a file is to stand in. -/
def makeParents (t : Tree) (p : Path) : Except Obstacle Tree :=
  t.makeAll (Path.isAbsolute p) (Path.segments p).reverse.tail

/-- Writes a file and makes the directories on its way. -/
def save (t : Tree) (p : Path) (contents : Blob) : Except Obstacle Tree := do
  let t ← t.makeParents p
  t.write p contents

/-! ## Changes -/

/-- The files that the second tree has and the first has not, or has with other contents. -/
def changes (before after : Tree) : List (String × Blob) :=
  after.entries.entries.filterMap fun (l, e) =>
    match e with
    | .directory => none
    | .file contents => if before.entries.get? l = some e then none else some (l, contents)

end Tree
end Files
end QuantumJobs

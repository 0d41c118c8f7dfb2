import QuantumJobs.Text.Blank

/-!
# Path — names of files and directories

A path is a text of segments between slashes.  Empty segments and `.` say nothing about where a path
leads; at its end they ask for a directory.
-/

namespace QuantumJobs
namespace Files

abbrev Path := String

namespace Path

/-- The pieces between the slashes. -/
def pieces (p : Path) : List String :=
  (p.toList.splitOn '/').map String.ofList

/-- The pieces that lead somewhere: names and `..`. -/
def segments (p : Path) : List String :=
  (pieces p).filter fun s => s ≠ "" && s ≠ "."

def isAbsolute (p : Path) : Bool := p.toList.head? = some '/'

def endsInSlash (p : Path) : Bool := p.toList.getLast? = some '/'

/-- The name at the end of a path, before any slashes; a path that ends in `.` or `..`, or has
slashes only, ends in none. -/
def lastName? (p : Path) : Option String :=
  ((pieces p).filter (· ≠ "")).getLast?.filter fun s => s ≠ "." && s ≠ ".."

/-- The last segment, unless it is `..`. -/
def fileName? (p : Path) : Option String :=
  (segments p).getLast?.filter (· ≠ "..")

/-- A name before and after its last point; a point at its start does not count. -/
def splitName (name : String) : String × Option String :=
  match Text.splitLast? '.' name.toList with
  | some (stem, extension) =>
      if stem.isEmpty then (name, none)
      else (String.ofList stem, some (String.ofList extension))
  | none => (name, none)

/-- The name without its extension. -/
def stem? (p : Path) : Option String :=
  (fileName? p).map fun name => (splitName name).1

def extension? (p : Path) : Option String :=
  (fileName? p).bind fun name => (splitName name).2

/-- A path below a directory; an absolute path stays as it is. -/
def join (dir p : Path) : Path :=
  if isAbsolute p || dir = "" then p
  else if dir.toList.getLast? = some '/' then dir ++ p
  else dir ++ "/" ++ p

end Path
end Files
end QuantumJobs

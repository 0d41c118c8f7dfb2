import QuantumJobs.Network.Percent

/-!
# UrlPath — the path of a URL

A path is cut at its slashes into segments.  The segments `.` and `..` are taken out, `..` with
the segment before it.  A drive, a letter with a colon, is not taken out; in a file URL it may have
a bar for its colon, and a first segment that starts with a drive is cut behind it.
-/

namespace QuantumJobs
namespace UrlPath

abbrev Segment := List Char

/-- The pieces between characters that the test picks. -/
def pieces (isSlash : Char → Bool) : List Char → List Segment
  | [] => [[]]
  | c :: cs =>
      match pieces isSlash cs with
      | [] => [[c]]
      | piece :: rest => if isSlash c then [] :: piece :: rest else (c :: piece) :: rest

/-- Whether a segment is a number of points, each written as itself or as `%2e`. -/
def isDots : Nat → Segment → Bool
  | 0, cs => cs.isEmpty
  | n + 1, '.' :: cs => isDots n cs
  | n + 1, '%' :: '2' :: e :: cs => (e = 'e' || e = 'E') && isDots n cs
  | _ + 1, _ => false

def isDrive : Segment → Bool
  | [letter, mark] => letter.isAlpha && (mark = ':' || mark = '|')
  | _ => false

/-- The segments without the last one, unless that is a drive; in reverse. -/
def parent : List Segment → List Segment
  | [] => []
  | s :: kept => if isDrive s then s :: kept else kept

/-- Adds a segment of a file URL; in reverse. -/
def addInFile (kept : List Segment) (s : Segment) : List Segment :=
  match s with
  | letter :: mark :: rest =>
      if isDrive s then [letter, ':'] :: kept
      else if kept.isEmpty && isDrive [letter, mark] && mark = ':' then [rest, [letter, ':']]
      else s :: kept
  | _ => s :: kept

/-- Takes `.` and `..` out of segments; `kept` holds in reverse those before. -/
def resolve (inFile : Bool) : List Segment → List Segment → List Segment
  | kept, [] => kept.reverse
  | kept, s :: rest =>
      let close (kept : List Segment) := if rest.isEmpty then [] :: kept else kept
      resolve inFile
        (if isDots 2 s then close (parent kept)
          else if isDots 1 s then close kept
          else if inFile then addInFile kept s
          else s :: kept)
        rest

/-- A character that a path has in encoded form. -/
def isEncoded (c : Char) : Bool := " \"<>`#?\x7b\x7d".toList.contains c

/-- Segments with a slash before each. -/
def text (segments : List Segment) : String :=
  String.ofList (segments.flatMap fun s => '/' :: Percent.encode isEncoded s)

/-- The segments of a file URL without empty ones at their start. -/
def ofFile (segments : List Segment) : List Segment :=
  let named := (resolve true [] segments).dropWhile (·.isEmpty)
  if named.isEmpty then [[]] else named

end UrlPath
end QuantumJobs

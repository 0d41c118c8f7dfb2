import QuantumJobs.Yaml.Cursor

/-!
# Scalar — the written forms of YAML scalars

A scalar is written plainly, between quotes, or as a block of indented lines.  In the first two
forms a single line break counts as a space, and of several the first is dropped; a folded block
does the same between lines that do not start with a blank.
-/

namespace QuantumJobs
namespace Yaml

/-! ## Blanks between words -/

/-- Blanks and line breaks that have been passed: the blanks on the line where they start, or the
first break and those after it. -/
structure Gap where
  blanks : List Char
  /-- The first line break, empty while there is none. -/
  first : List Char
  /-- The line breaks after the first. -/
  further : List Char

namespace Gap

def none : Gap := ⟨[], [], []⟩

/-- What the gap stands for inside a scalar. -/
def folded (g : Gap) : List Char :=
  match g.first with
  | [] => g.blanks
  | '\n' :: _ => if g.further.isEmpty then [' '] else g.further
  | first => first ++ g.further

end Gap

/-- Passes blanks and line breaks.  `tabColumn` is the column up to which a tab must not indent a
new line; `broken` says that a line break has been passed before. -/
def readGap (tabColumn : Int) : Nat → Bool → Gap → Cursor → Option (Gap × Bool × Cursor)
  | 0, broken, g, c => some (g, broken, c)
  | fuel + 1, broken, g, c =>
      match c.peek with
      | none => some (g, broken, c)
      | some x =>
          if isBlank x then
            if broken then
              if x = '\t' && (c.column : Int) < tabColumn then none
              else readGap tabColumn fuel broken g c.skip
            else readGap tabColumn fuel broken { g with blanks := g.blanks ++ [x] } c.skip
          else if isBreak x then
            if broken then
              readGap tabColumn fuel true { g with further := g.further ++ [x] } c.skip
            else readGap tabColumn fuel true { g with blanks := [], first := [x] } c.skip
          else some (g, broken, c)

/-! ## Plain scalars -/

def isFlowMark (c : Char) : Bool := c = ',' || c = '[' || c = ']' || c = '\x7b' || c = '\x7d'

/-- A word of a plain scalar, in reverse onto `acc`. -/
def readWord (inFlow : Bool) : Nat → List Char → Cursor → Option (List Char × Cursor)
  | 0, acc, c => some (acc, c)
  | fuel + 1, acc, c =>
      match c.peek with
      | none => some (acc, c)
      | some x =>
          if isGap (some x) then some (acc, c)
          else
            let next := c.peekAt 1
            if inFlow && x = ':' && next.any (fun y => isFlowMark y || y = '?') then none
            else if (x = ':' && isGap next) || (inFlow && isFlowMark x) then some (acc, c)
            else readWord inFlow fuel (x :: acc) c.skip

/-- A plain scalar: its characters, and whether line breaks follow it.  Outside of flow collections
its lines must be indented by more than `indent`. -/
def readPlain (inFlow : Bool) (indent : Int) :
    Nat → Gap → Bool → List Char → Cursor → Option (List Char × Bool × Cursor)
  | 0, _, broken, acc, c => some (acc, broken, c)
  | fuel + 1, g, broken, acc, c =>
      if c.isDocumentMark || c.isAt '#' then some (acc, broken, c)
      else do
        let (word, after) ← readWord inFlow (c.rest.length + 1) [] c
        let (acc, g, broken) :=
          if word.isEmpty then (acc, g, broken)
          else (acc ++ g.folded ++ word.reverse, Gap.none, false)
        match after.peek with
        | some x =>
            if isBlank x || isBreak x then
              let (g, broken, after) ←
                readGap (indent + 1) (after.rest.length + 1) broken g after
              if !inFlow && (after.column : Int) ≤ indent then some (acc, broken, after)
              else readPlain inFlow indent fuel g broken acc after
            else some (acc, broken, after)
        | none => some (acc, broken, after)

/-! ## Quoted scalars -/

/-- The character that a short escape stands for. -/
def shortEscape? (c : Char) : Option Char :=
  match c with
  | '0' => some '\x00'
  | 'a' => some '\x07'
  | 'b' => some '\x08'
  | 't' => some '\t'
  | '\t' => some '\t'
  | 'n' => some '\n'
  | 'v' => some '\x0b'
  | 'f' => some '\x0c'
  | 'r' => some '\r'
  | 'e' => some '\x1b'
  | ' ' => some ' '
  | '"' => some '"'
  | '/' => some '/'
  | '\\' => some '\\'
  | 'N' => some '\u0085'
  | '_' => some '\u00a0'
  | 'L' => some '\u2028'
  | 'P' => some '\u2029'
  | _ => none

/-- How many hexadecimal digits follow an escape. -/
def escapeWidth? (c : Char) : Option Nat :=
  match c with
  | 'x' => some 2
  | 'u' => some 4
  | 'U' => some 8
  | _ => none

/-- The character after a backslash. -/
def readEscape (c : Cursor) : Option (Char × Cursor) := do
  let x ← c.peek
  match shortEscape? x with
  | some y => some (y, c.skip)
  | none =>
      let width ← escapeWidth? x
      let digits := c.skip.rest.take width
      if digits.length < width then none
      else
        let n ← Text.numeral? 16 digits
        if (0xD800 ≤ n && n ≤ 0xDFFF) || 0x10FFFF < n then none
        else some (Char.ofNat n, c.skipMany (width + 1))

/-- A word between quotes, in reverse onto `acc`; true if it ends with an escaped line break. -/
def readQuotedWord (quote : Char) : Nat → List Char → Cursor → Option (List Char × Bool × Cursor)
  | 0, acc, c => some (acc, false, c)
  | fuel + 1, acc, c =>
      match c.peek with
      | none => some (acc, false, c)
      | some x =>
          if isGap (some x) then some (acc, false, c)
          else if x = quote then
            if quote = '\'' && c.peekAt 1 = some '\'' then
              readQuotedWord quote fuel ('\'' :: acc) (c.skipMany 2)
            else some (acc, false, c)
          else if x = '\\' && quote = '"' then
            if (c.peekAt 1).any isBreak then some (acc, true, c.skipMany 2)
            else do
              let (y, c) ← readEscape c.skip
              readQuotedWord quote fuel (y :: acc) c
          else readQuotedWord quote fuel (x :: acc) c.skip

/-- A quoted scalar after its opening quote. -/
def readQuoted (quote : Char) : Nat → List Char → Cursor → Option (List Char × Cursor)
  | 0, _, _ => none
  | fuel + 1, acc, c =>
      if c.isDocumentMark || c.peek.isNone then none
      else do
        let (word, escaped, c) ← readQuotedWord quote (c.rest.length + 1) [] c
        let acc := acc ++ word.reverse
        if c.isAt quote then some (acc, c.skip)
        else
          let (g, broken, c) ← readGap 0 (c.rest.length + 1) escaped Gap.none c
          let filler :=
            if escaped then g.further
            else if broken then g.folded
            else g.blanks
          readQuoted quote fuel (acc ++ filler) c

/-! ## Block scalars -/

/-- What happens to the line breaks at the end of a block. -/
inductive Chomping
  | strip
  | clip
  | keep
  deriving DecidableEq, Repr

/-- The header of a block after its mark: chomping and, if given, the indentation. -/
def readBlockHeader (c : Cursor) : Option (Chomping × Option Nat × Cursor) :=
  let chomping (c : Cursor) : Option Chomping :=
    if c.isAt '+' then some .keep else if c.isAt '-' then some .strip else none
  let digit (c : Cursor) : Option Nat := c.peek.bind Text.digit?
  match chomping c with
  | some k =>
      match digit c.skip with
      | some 0 => none
      | some n => some (k, some n, c.skipMany 2)
      | none => some (k, none, c.skip)
  | none =>
      match digit c with
      | some 0 => none
      | some n =>
          match chomping c.skip with
          | some k => some (k, some n, c.skipMany 2)
          | none => some (.clip, some n, c.skip)
      | none => some (.clip, none, c)

/-- Passes indentation and empty lines.  An indentation of zero is not known yet. -/
def readBlockBreaks (indent : Nat) :
    Nat → Nat → List Char → Cursor → Option (Nat × List Char × Cursor)
  | 0, widest, breaks, c => some (widest, breaks, c)
  | fuel + 1, widest, breaks, c =>
      let spaces := (c.rest.takeWhile (· = ' ')).length
      let c := c.skipMany (if indent = 0 then spaces else min spaces (indent - c.column))
      let widest := max widest c.column
      if (indent = 0 || c.column < indent) && c.isAt '\t' then none
      else
        match c.peek with
        | some x =>
            if isBreak x then readBlockBreaks indent fuel widest (breaks ++ [x]) c.skip
            else some (widest, breaks, c)
        | none => some (widest, breaks, c)

/-- The lines of a block.  `first` is the line break before the current line, `further` those after
it; `blankBefore` says that the line before starts with a blank. -/
def readBlockLines (literal : Bool) (indent : Nat) :
    Nat → Bool → List Char → List Char → List Char → Cursor →
      Option (List Char × List Char × List Char × Cursor)
  | 0, _, first, further, acc, c => some (acc, first, further, c)
  | fuel + 1, blankBefore, first, further, acc, c =>
      if c.column = indent && c.peek.isSome then do
        let blank := c.peek.any isBlank
        let joint :=
          if !literal && first = ['\n'] && !blankBefore && !blank then
            (if further.isEmpty then [' '] else [])
          else first
        let (line, c) := c.takeWhile fun _ => true
        let first := c.peek.toList
        let c := c.skip
        let (_, breaks, c) ← readBlockBreaks indent (c.rest.length + 1) 0 [] c
        readBlockLines literal indent fuel blank first breaks (acc ++ joint ++ further ++ line) c
      else some (acc, first, further, c)

/-- A block scalar after its mark, in a collection that is indented by `outer`. -/
def readBlock (literal : Bool) (outer : Int) (c : Cursor) : Option (List Char × Cursor) := do
  let (chomping, given, c) ← readBlockHeader c
  let c := c.skipWhile isBlank
  let c := if c.isAt '#' then c.skipWhile fun _ => true else c
  if !isGap c.peek then none
  else
    let c := c.skip
    let given := match given with
      | some n => (if 0 ≤ outer then outer.toNat + n else n)
      | none => 0
    let (widest, breaks, c) ← readBlockBreaks given (c.rest.length + 1) 0 [] c
    let indent := if given = 0 then max widest (max (outer + 1).toNat 1) else given
    let (lines, first, further, c) ←
      readBlockLines literal indent (c.rest.length + 1) false [] breaks [] c
    let tail := match chomping with
      | .strip => []
      | .clip => first
      | .keep => first ++ further
    some (lines ++ tail, c)

end Yaml
end QuantumJobs

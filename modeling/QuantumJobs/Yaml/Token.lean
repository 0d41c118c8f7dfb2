import QuantumJobs.Yaml.Scalar

/-!
# Token — the parts of a YAML text

Tokens are scalars, marks, and the starts and ends of block collections, which follow from the
indentation.  A key is known as such only when its colon is met; until then its place is
remembered, and the colon completes the tokens at that place.  A text that has a fault at any place
has no tokens.
-/

namespace QuantumJobs
namespace Yaml

inductive Token
  | yamlVersion (major minor : Nat)
  | tagHandle (handle leading : String)
  | documentStart
  | documentEnd
  | blockSequence
  | blockMapping
  | blockEnd
  | flowSequence
  | flowSequenceEnd
  | flowMapping
  | flowMappingEnd
  | blockEntry
  | flowEntry
  | key
  | value
  | alias (name : String)
  | anchor (name : String)
  | tag (handle suffix : String)
  | scalar (plain : Bool) (text : String)
  | streamEnd
  deriving DecidableEq, Repr, Inhabited

/-- A place where a key may turn out to start. -/
structure PossibleKey where
  /-- Whether the place can only be a key. -/
  required : Bool
  /-- How many tokens stand before. -/
  position : Nat
  cursor : Cursor

structure Lexer where
  cursor : Cursor
  /-- The column of the current block collection, −1 outside of any. -/
  indent : Int
  /-- The columns of the enclosing block collections. -/
  outer : List Int
  /-- Whether a key may start here. -/
  keyAllowed : Bool
  /-- The possible key of the current flow collection, or of the block outside. -/
  possible : Option PossibleKey
  /-- The possible keys of the enclosing flow collections and of the block outside. -/
  enclosing : List (Option PossibleKey)
  tokens : Array Token

namespace Lexer

def start (cs : List Char) : Lexer := ⟨.start cs, -1, [], true, none, [], #[]⟩

def inFlow (l : Lexer) : Bool := !l.enclosing.isEmpty

def emit (l : Lexer) (t : Token) : Lexer := { l with tokens := l.tokens.push t }

def emitAt (l : Lexer) (position : Nat) (t : Token) : Lexer :=
  { l with tokens := l.tokens.insertIdxIfInBounds position t }

def moveTo (l : Lexer) (cursor : Cursor) : Lexer := { l with cursor }

def allowKey (l : Lexer) (keyAllowed : Bool) : Lexer := { l with keyAllowed }

/-- Passes a mark of some characters and emits its token. -/
def mark (l : Lexer) (width : Nat) (t : Token) : Lexer :=
  (l.moveTo (l.cursor.skipMany width)).emit t

/-! ## Possible keys -/

/-- The longest key, in characters. -/
def keyLimit : Nat := 1024

/-- Whether a place can no longer be a key: a key stands on one line and is not too long. -/
def isStale (l : Lexer) (k : PossibleKey) : Bool :=
  k.cursor.line < l.cursor.line || k.cursor.index + keyLimit < l.cursor.index

/-- Gives up places that can no longer be keys; a fault if one of them had to be. -/
def dropStale (l : Lexer) : Option Lexer :=
  let kept (k : Option PossibleKey) : Option (Option PossibleKey) :=
    match k with
    | none => some none
    | some k => if l.isStale k then (if k.required then none else some none) else some (some k)
  do
    let possible ← kept l.possible
    let enclosing ← l.enclosing.mapM kept
    some { l with possible, enclosing }

/-- Gives up the current place; a fault if it had to be a key. -/
def dropKey (l : Lexer) : Option Lexer :=
  match l.possible with
  | some k => if k.required then none else some { l with possible := none }
  | none => some l

/-- Remembers the current place if a key may start there. -/
def saveKey (l : Lexer) : Option Lexer :=
  if l.keyAllowed then do
    let l ← l.dropKey
    some { l with possible := some {
      required := !l.inFlow && l.indent = l.cursor.column
      position := l.tokens.size
      cursor := l.cursor } }
  else some l

/-! ## Block collections -/

/-- Opens a block collection at a column if that lies further in; its token goes to a place. -/
def indentTo (l : Lexer) (column : Nat) (position : Nat) (t : Token) : Lexer :=
  if !l.inFlow && l.indent < column then
    { l.emitAt position t with indent := column, outer := l.indent :: l.outer }
  else l

/-- Closes the block collections that lie further in than a column. -/
def unindentTo (column : Int) : List Int → Lexer → Lexer
  | [], l => l
  | indent :: outer, l =>
      if !l.inFlow && column < l.indent then
        unindentTo column outer { l.emit .blockEnd with indent, outer }
      else l

def unindent (l : Lexer) (column : Int) : Lexer := unindentTo column l.outer l

/-! ## White space -/

/-- Passes white space, comments and line breaks, and a byte order mark that starts a line. -/
def skipSpace : Nat → Lexer → Lexer
  | 0, l => l
  | fuel + 1, l =>
      match l.cursor.peek with
      | none => l
      | some x =>
          if x = ' ' || (x = '\t' && (l.inFlow || !l.keyAllowed))
              || (x = '\ufeff' && l.cursor.column = 0) then
            skipSpace fuel (l.moveTo l.cursor.skip)
          else if x = '#' then skipSpace fuel (l.moveTo (l.cursor.skipWhile fun _ => true))
          else if isBreak x then
            skipSpace fuel ((l.moveTo l.cursor.skip).allowKey (l.keyAllowed || !l.inFlow))
          else l

/-! ## Directives, tags and anchors -/

/-- A number of up to nine digits. -/
def readNumber (c : Cursor) : Option (Nat × Cursor) := do
  let (digits, c) := c.takeWhile fun x => (Text.digit? x).isSome
  let n ← Text.numeral? 10 digits
  if digits.length ≤ 9 then some (n, c) else none

/-- A handle: words between exclamation marks, of which the second may be absent. -/
def readHandle (c : Cursor) : Option (String × Cursor) :=
  if c.isAt '!' then
    let (word, c) := c.skip.takeWhile isWordChar
    if c.isAt '!' then some (String.ofList ('!' :: word ++ ['!']), c.skip)
    else some (String.ofList ('!' :: word), c)
  else none

def isTagChar (c : Char) : Bool :=
  isWordChar c || ";/?:@&=+$.!~*'()%".toList.contains c

/-- The characters of a tag with their percent escapes read, in reverse onto `acc`. -/
def readTagChars (verbatim : Bool) : Nat → List UInt8 → Cursor → Option (List UInt8 × Cursor)
  | 0, acc, c => some (acc, c)
  | fuel + 1, acc, c =>
      match c.peek with
      | none => some (acc, c)
      | some x =>
          if x = '%' then
            match Text.numeral? 16 ((c.rest.drop 1).take 2), (c.rest.drop 2).head? with
            | some n, some _ => readTagChars verbatim fuel (n.toUInt8 :: acc) (c.skipMany 3)
            | _, _ => none
          else if isTagChar x || (verbatim && (x = ',' || x = '[' || x = ']')) then
            readTagChars verbatim fuel (x.toString.toUTF8.toList.reverse ++ acc) c.skip
          else some (acc, c)

/-- The characters of a tag as text. -/
def readTagText (verbatim : Bool) (c : Cursor) : Option (String × Cursor) := do
  let (bytes, c) ← readTagChars verbatim (c.rest.length + 1) [] c
  let s ← String.fromUTF8? ⟨bytes.reverse.toArray⟩
  some (s, c)

/-- The handle and the suffix of a tag. -/
def readTag (c : Cursor) : Option (String × String × Cursor) :=
  if c.peekAt 1 = some '<' then do
    let (s, c) ← readTagText true (c.skipMany 2)
    if c.isAt '>' && s ≠ "" then some ("", s, c.skip) else none
  else do
    let (handle, after) ← readHandle c
    if handle ≠ "!" && handle.endsWith "!" then
      let (s, c) ← readTagText false after
      if s = "" then none else some (handle, s, c)
    else
      let (s, c) ← readTagText false c.skip
      if s = "" then some ("", "!", c) else some ("!", s, c)

/-- Whether what follows may follow an anchor or alias. -/
def endsName (x : Option Char) : Bool :=
  isGap x || x.any fun x => "?:,]\x7d%@`".toList.contains x

/-- The name of an anchor or alias. -/
def readName (c : Cursor) : Option (String × Cursor) :=
  let (word, c) := c.takeWhile isWordChar
  if word.isEmpty || !endsName c.peek then none else some (String.ofList word, c)

/-- A directive after its percent sign, with the rest of its line. -/
def readDirective (c : Cursor) : Option (Token × Cursor) := do
  let (name, c) := c.takeWhile isWordChar
  if !isGap c.peek then none
  else
    let c := c.skipWhile isBlank
    let (t, c) ← match String.ofList name with
      | "YAML" => do
          let (major, c) ← readNumber c
          if c.isAt '.' then
            let (minor, c) ← readNumber c.skip
            some (Token.yamlVersion major minor, c)
          else none
      | "TAG" => do
          let (handle, c) ← readHandle c
          if !handle.endsWith "!" || !c.peek.any isBlank then none
          else
            let (leading, c) ← readTagText true (c.skipWhile isBlank)
            if leading = "" || !isGap c.peek then none else some (Token.tagHandle handle leading, c)
      | _ => none
    let c := c.skipWhile isBlank
    let c := if c.isAt '#' then c.skipWhile fun _ => true else c
    if c.peek.all isBreak then some (t, c.skip) else none

/-! ## Tokens -/

/-- Closes all block collections before a document mark or directive. -/
def leaveBlocks (l : Lexer) : Option Lexer := do
  let l ← (l.unindent (-1)).dropKey
  some (l.allowKey false)

/-- The token of an entry of a block sequence. -/
def lexEntry (l : Lexer) : Option Lexer := do
  if !l.inFlow && !l.keyAllowed then none
  else
    let l := l.indentTo l.cursor.column l.tokens.size .blockSequence
    let l ← l.dropKey
    some ((l.allowKey true).mark 1 .blockEntry)

/-- The token of a key that is marked as such. -/
def lexKey (l : Lexer) : Option Lexer := do
  if !l.inFlow && !l.keyAllowed then none
  else
    let l := l.indentTo l.cursor.column l.tokens.size .blockMapping
    let l ← l.dropKey
    some ((l.allowKey !l.inFlow).mark 1 .key)

/-- The colon before a value; it makes a key of the place that was remembered. -/
def lexValue (l : Lexer) : Option Lexer :=
  match l.possible with
  | some k =>
      let l := l.emitAt k.position .key
      let l := l.indentTo k.cursor.column k.position .blockMapping
      some (({ l with possible := none }.allowKey false).mark 1 .value)
  | none =>
      if !l.inFlow && !l.keyAllowed then none
      else
        let l := l.indentTo l.cursor.column l.tokens.size .blockMapping
        some ((l.allowKey !l.inFlow).mark 1 .value)

/-- The start of a flow collection. -/
def lexFlowStart (l : Lexer) (t : Token) : Option Lexer := do
  let l ← l.saveKey
  let inside := { l with possible := none, enclosing := l.possible :: l.enclosing }
  some ((inside.allowKey true).mark 1 t)

/-- The end of a flow collection. -/
def lexFlowEnd (l : Lexer) (t : Token) : Option Lexer := do
  let l ← l.dropKey
  let l := match l.enclosing with
    | possible :: enclosing => { l with possible, enclosing }
    | [] => l
  some ((l.allowKey false).mark 1 t)

/-- A token that may be a key. -/
def lexNode (l : Lexer) (read : Lexer → Option (Token × Cursor)) : Option Lexer := do
  let l ← l.saveKey
  let (t, c) ← read l
  some ((l.allowKey false |>.moveTo c).emit t)

def lexPlain (l : Lexer) : Option Lexer := do
  let l ← l.saveKey
  let (text, broken, c) ←
    readPlain l.inFlow l.indent (l.cursor.rest.length + 1) Gap.none false [] l.cursor
  some (((l.allowKey broken).moveTo c).emit (.scalar true (String.ofList text)))

def lexQuoted (l : Lexer) (quote : Char) : Option Lexer :=
  l.lexNode fun l => do
    let c := l.cursor.skip
    let (text, c) ← readQuoted quote (c.rest.length + 1) [] c
    some (.scalar false (String.ofList text), c)

def lexBlock (l : Lexer) (literal : Bool) : Option Lexer := do
  let l ← l.dropKey
  let (text, c) ← readBlock literal l.indent l.cursor.skip
  some (((l.allowKey true).moveTo c).emit (.scalar false (String.ofList text)))

/-- A tag; a gap or, in a flow collection, a comma follows it. -/
def lexTag (l : Lexer) : Option Lexer :=
  l.lexNode fun l => do
    let (handle, suffix, c) ← readTag l.cursor
    if isGap c.peek || (l.inFlow && c.isAt ',') then some (.tag handle suffix, c) else none

/-- Characters that never start a plain scalar by themselves. -/
def isIndicator (x : Char) : Bool :=
  "-?:,[]\x7b\x7d#&*!|>'\"%@`".toList.contains x

/-- Whether a plain scalar starts here. -/
def startsPlain (l : Lexer) (x : Char) : Bool :=
  let next := l.cursor.peekAt 1
  !(isBlank x || isIndicator x)
    || (x = '-' && !next.any isBlank)
    || (!l.inFlow && (x = '?' || x = ':') && !isGap next)

/-- The token that a character starts. -/
def lexAt (l : Lexer) (x : Char) : Option Lexer :=
  let next := l.cursor.peekAt 1
  if l.cursor.column = 0 && x = '%' then do
    let l ← l.leaveBlocks
    let (t, c) ← readDirective l.cursor.skip
    some ((l.moveTo c).emit t)
  else if l.cursor.isMarked '-' then return (← l.leaveBlocks).mark 3 .documentStart
  else if l.cursor.isMarked '.' then return (← l.leaveBlocks).mark 3 .documentEnd
  else if x = '[' then l.lexFlowStart .flowSequence
  else if x = '\x7b' then l.lexFlowStart .flowMapping
  else if x = ']' then l.lexFlowEnd .flowSequenceEnd
  else if x = '\x7d' then l.lexFlowEnd .flowMappingEnd
  else if x = ',' then do
    let l ← l.dropKey
    some ((l.allowKey true).mark 1 .flowEntry)
  else if x = '-' && isGap next then l.lexEntry
  else if x = '?' && (l.inFlow || isGap next) then l.lexKey
  else if x = ':' && (l.inFlow || isGap next) then l.lexValue
  else if x = '*' then l.lexNode fun l => (readName l.cursor.skip).map fun (n, c) => (.alias n, c)
  else if x = '&' then l.lexNode fun l => (readName l.cursor.skip).map fun (n, c) => (.anchor n, c)
  else if x = '!' then l.lexTag
  else if x = '|' && !l.inFlow then l.lexBlock true
  else if x = '>' && !l.inFlow then l.lexBlock false
  else if x = '\'' || x = '"' then l.lexQuoted x
  else if l.startsPlain x then l.lexPlain
  else none

/-- The next token; true at the end of the text. -/
def next (l : Lexer) : Option (Lexer × Bool) := do
  let l ← (l.skipSpace (l.cursor.rest.length + 1)).dropStale
  match l.cursor.peek with
  | none =>
      let l := l.unindent (-1)
      let l ← l.dropKey
      some (l.emit .streamEnd, true)
  | some x =>
      let l ← (l.unindent l.cursor.column).lexAt x
      some (l, false)

/-- All tokens.  Each one takes at least one character. -/
def run : Nat → Lexer → Option Lexer
  | 0, _ => none
  | fuel + 1, l => do
      let (l, atEnd) ← l.next
      if atEnd then some l else run fuel l

end Lexer

/-- The tokens of a text; the last one says that it ends. -/
def tokens? (s : String) : Option (List Token) :=
  let cs := s.toList
  if cs.all isPrintable then
    let cs := unifyBreaks cs
    (Lexer.run (cs.length + 2) (Lexer.start cs)).map (·.tokens.toList)
  else none

end Yaml
end QuantumJobs

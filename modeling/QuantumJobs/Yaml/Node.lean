import QuantumJobs.Yaml.Token

/-!
# Node — the tree of a YAML document

A node is a scalar as it is written, a sequence, a mapping, or an alias.  Anchors are known by
numbers: the number of a name is how many names there are when it is set, so a name that is set
again may share its number with the next new name.  An alias keeps the number that its name has
where the alias stands, and stands for the last node that starts under this number anywhere in the
document.  A text holds at most one document.
-/

namespace QuantumJobs
namespace Yaml

inductive Node
  /-- The tag, whether the scalar is written plainly, and its text. -/
  | scalar (tag : Option String) (plain : Bool) (text : String)
  /-- Stands for the node of a number. -/
  | alias (number : Nat)
  | sequence (tag : Option String) (items : List Node)
  | mapping (tag : Option String) (entries : List (Node × Node))
  deriving Inhabited

namespace Node

/-- The scalar that stands where a node is left out. -/
def empty : Node := .scalar none true ""

mutual

/-- How many scalars, aliases, and starts and ends of collections a node is made of. -/
def size : Node → Nat
  | .scalar _ _ _ => 1
  | .alias _ => 1
  | .sequence _ items => sizeOfItems items + 2
  | .mapping _ entries => sizeOfEntries entries + 2

def sizeOfItems : List Node → Nat
  | [] => 0
  | n :: rest => n.size + sizeOfItems rest

def sizeOfEntries : List (Node × Node) → Nat
  | [] => 0
  | (k, n) :: rest => k.size + n.size + sizeOfEntries rest

end

end Node

/-! ## Documents -/

/-- Where an anchor stands: the number of its name, and how many anchored nodes start before. -/
structure Anchor where
  number : Nat
  place : Nat

structure Document where
  root : Node
  anchored : List (Anchor × Node)

namespace Document

/-- The anchored node that starts last. -/
def latest? : List (Anchor × Node) → Option (Anchor × Node)
  | [] => none
  | a :: rest =>
      match latest? rest with
      | some b => if a.1.place < b.1.place then some b else some a
      | none => some a

/-- The node that the aliases of a number stand for. -/
def target? (d : Document) (number : Nat) : Option Node :=
  (latest? (d.anchored.filter (·.1.number = number))).map (·.2)

end Document

namespace Node

/-! ## Reading tokens -/

/-- The tokens that are left, the tag handles, the names of anchors with their numbers, how many
anchored nodes have started, and those that are complete. -/
structure Feed where
  tokens : List Token
  handles : List (String × String)
  names : List (String × Nat)
  started : Nat
  anchored : List (Anchor × Node)

/-- The handles that every document knows. -/
def standardHandles : List (String × String) := [("!", "!"), ("!!", "tag:yaml.org,2002:")]

def Feed.skip (f : Feed) : Feed := { f with tokens := f.tokens.tail }

def Feed.peek (f : Feed) : Option Token := f.tokens.head?

def Feed.isAt (f : Feed) (ts : List Token) : Bool := f.peek.any ts.contains

/-- The full tag of a handle and a suffix; the handle must be known. -/
def fullTag? (f : Feed) (handle suffix : String) : Option String :=
  if handle = "" then some suffix
  else (f.handles.lookup handle).map (· ++ suffix)

/-- What stands before a node. -/
structure Properties where
  anchor : Option String
  tag : Option String

/-- The anchor and the tag of a node, in either order; each may be absent. -/
def readProperties (f : Feed) : Option (Properties × Feed) :=
  let tagAt (f : Feed) : Option (Option String × Feed) :=
    match f.peek with
    | some (.tag handle suffix) => (fullTag? f handle suffix).map fun t => (some t, f.skip)
    | _ => some (none, f)
  match f.peek with
  | some (.anchor name) => (tagAt f.skip).map fun (tag, f) => (⟨some name, tag⟩, f)
  | _ => do
      let (tag, f) ← tagAt f
      match tag, f.peek with
      | some _, some (.anchor name) => some (⟨some name, tag⟩, f.skip)
      | _, _ => some (⟨none, tag⟩, f)

/-- Starts a node that may have an anchor. -/
def Feed.enter (f : Feed) : Option String → Option Anchor × Feed
  | none => (none, f)
  | some name =>
      let anchor : Anchor := ⟨f.names.length, f.started⟩
      (some anchor, { f with
        names := (name, anchor.number) :: f.names.filter (·.1 ≠ name)
        started := f.started + 1 })

/-- Completes a node. -/
def Feed.leave (f : Feed) (anchor : Option Anchor) (n : Node) : Node × Feed :=
  match anchor with
  | some a => (n, { f with anchored := (a, n) :: f.anchored })
  | none => (n, f)

mutual

/-- A node.  `block` says that it may be a block collection, `indentless` that it may be a sequence
whose entries are not indented. -/
def read (block indentless : Bool) : Nat → Feed → Option (Node × Feed)
  | 0, _ => none
  | fuel + 1, f =>
      match f.peek with
      | some (.alias name) => (f.names.lookup name).map fun number => (.alias number, f.skip)
      | _ => do
          let (p, f) ← readProperties f
          let (anchor, f) := f.enter p.anchor
          match f.peek, block, indentless with
          | some (.scalar plain text), _, _ =>
              some (f.skip.leave anchor (.scalar p.tag plain text))
          | some .blockEntry, _, true => do
              let (ns, f) ← readIndentless fuel f
              some (f.leave anchor (.sequence p.tag ns))
          | some .blockSequence, true, _ => do
              let (ns, f) ← readItems fuel f.skip
              some (f.leave anchor (.sequence p.tag ns))
          | some .blockMapping, true, _ => do
              let (es, f) ← readEntries fuel f.skip
              some (f.leave anchor (.mapping p.tag es))
          | some .flowSequence, _, _ => do
              let (ns, f) ← readFlowItems true fuel f.skip
              some (f.leave anchor (.sequence p.tag ns))
          | some .flowMapping, _, _ => do
              let (es, f) ← readFlowEntries true fuel f.skip
              some (f.leave anchor (.mapping p.tag es))
          | _, _, _ =>
              if p.anchor.isSome || p.tag.isSome then
                some (f.leave anchor (.scalar p.tag true ""))
              else none

/-- A node, or the empty one where one of the tokens stands instead. -/
def readUnless (ends : List Token) (block indentless : Bool) : Nat → Feed → Option (Node × Feed)
  | 0, _ => none
  | fuel + 1, f => if f.isAt ends then some (.empty, f) else read block indentless fuel f

/-- The items of a block sequence. -/
def readItems : Nat → Feed → Option (List Node × Feed)
  | 0, _ => none
  | fuel + 1, f =>
      match f.peek with
      | some .blockEntry => do
          let (n, f) ← readUnless [.blockEntry, .blockEnd] true false fuel f.skip
          let (ns, f) ← readItems fuel f
          some (n :: ns, f)
      | some .blockEnd => some ([], f.skip)
      | _ => none

/-- The items of a sequence that is not indented. -/
def readIndentless : Nat → Feed → Option (List Node × Feed)
  | 0, _ => none
  | fuel + 1, f =>
      match f.peek with
      | some .blockEntry => do
          let (n, f) ← readUnless [.blockEntry, .key, .value, .blockEnd] true false fuel f.skip
          let (ns, f) ← readIndentless fuel f
          some (n :: ns, f)
      | _ => some ([], f)

/-- The entries of a block mapping. -/
def readEntries : Nat → Feed → Option (List (Node × Node) × Feed)
  | 0, _ => none
  | fuel + 1, f =>
      match f.peek with
      | some .key => do
          let (k, f) ← readUnless [.key, .value, .blockEnd] true true fuel f.skip
          let (v, f) ← readValue [.key, .value, .blockEnd] true fuel f
          let (es, f) ← readEntries fuel f
          some ((k, v) :: es, f)
      | some .blockEnd => some ([], f.skip)
      | _ => none

/-- The value after a key; empty where there is no colon. -/
def readValue (ends : List Token) (block : Bool) : Nat → Feed → Option (Node × Feed)
  | 0, _ => none
  | fuel + 1, f =>
      match f.peek with
      | some .value => readUnless ends block block fuel f.skip
      | _ => some (.empty, f)

/-- The items of a flow sequence; a key makes a mapping with one entry. -/
def readFlowItems (first : Bool) : Nat → Feed → Option (List Node × Feed)
  | 0, _ => none
  | fuel + 1, f =>
      if f.isAt [.flowSequenceEnd] then some ([], f.skip)
      else if !first && !f.isAt [.flowEntry] then none
      else
        let f := if first then f else f.skip
        match f.peek with
        | some .flowSequenceEnd => some ([], f.skip)
        | some .key => do
            let f := f.skip
            let (k, f) ←
              if f.isAt [.value, .flowEntry, .flowSequenceEnd] then some (Node.empty, f.skip)
              else read false false fuel f
            let (v, f) ← readValue [.flowEntry, .flowSequenceEnd] false fuel f
            let (ns, f) ← readFlowItems false fuel f
            some (.mapping none [(k, v)] :: ns, f)
        | _ => do
            let (n, f) ← read false false fuel f
            let (ns, f) ← readFlowItems false fuel f
            some (n :: ns, f)

/-- The entries of a flow mapping. -/
def readFlowEntries (first : Bool) : Nat → Feed → Option (List (Node × Node) × Feed)
  | 0, _ => none
  | fuel + 1, f =>
      if f.isAt [.flowMappingEnd] then some ([], f.skip)
      else if !first && !f.isAt [.flowEntry] then none
      else
        let f := if first then f else f.skip
        match f.peek with
        | some .flowMappingEnd => some ([], f.skip)
        | some .key => do
            let (k, f) ← readUnless [.value, .flowEntry, .flowMappingEnd] false false fuel f.skip
            let (v, f) ← readValue [.flowEntry, .flowMappingEnd] false fuel f
            let (es, f) ← readFlowEntries false fuel f
            some ((k, v) :: es, f)
        | _ => do
            let (k, f) ← read false false fuel f
            let (es, f) ← readFlowEntries false fuel f
            some ((k, .empty) :: es, f)

end

/-! ## Reading documents -/

/-- Reads the directives before a document.  The version must be 1.1 or 1.2 and stand once, and no
handle may be set twice. -/
def readDirectives (versioned : Bool) (seen : List String) : List Token → Feed → Option Feed
  | [], f => some { f with tokens := [] }
  | t :: rest, f =>
      match t with
      | .yamlVersion major minor =>
          if versioned || major ≠ 1 || (minor ≠ 1 && minor ≠ 2) then none
          else readDirectives true seen rest f
      | .tagHandle handle leading =>
          if seen.contains handle then none
          else
            readDirectives versioned (handle :: seen) rest
              { f with handles := (handle, leading) :: f.handles }
      | _ => some { f with tokens := t :: rest }

def isDirective : Token → Bool
  | .yamlVersion _ _ => true
  | .tagHandle _ _ => true
  | _ => false

/-- The document that starts with an explicit mark. -/
def readMarked (fuel : Nat) (f : Feed) : Option (Node × Feed) := do
  let f ← readDirectives false [] f.tokens f
  if f.isAt [.documentStart] then
    let f := f.skip
    if f.isAt [.documentStart, .documentEnd, .streamEnd] || f.peek.any isDirective then
      some (.empty, f)
    else read true false fuel f
  else none

end Node

/-- The document of a text; an empty scalar if the text holds none.  Nothing but ends of documents
may follow the first one. -/
def Document.ofTokens? (tokens : List Token) : Option Document := do
  let fuel := 4 * tokens.length + 8
  let f : Node.Feed := ⟨tokens, Node.standardHandles, [], 0, []⟩
  if f.isAt [.streamEnd] then some ⟨.empty, []⟩
  else
    let (n, f) ←
      if f.isAt [.documentStart] || f.peek.any Node.isDirective then Node.readMarked fuel f
      else Node.read true false fuel f
    if f.tokens.dropWhile (· = .documentEnd) = [.streamEnd] then some ⟨n, f.anchored⟩ else none

def Document.ofText? (s : String) : Option Document := (tokens? s).bind Document.ofTokens?

end Yaml
end QuantumJobs

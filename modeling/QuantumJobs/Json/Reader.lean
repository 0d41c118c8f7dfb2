import QuantumJobs.Json.Numeral
import QuantumJobs.Text.Utf8

/-!
# Reader — JSON text as values

The reader takes one value and nothing after it but white space.  Of two fields with the same key
the last wins.  Values may be nested at most `maxDepth` deep.  A text that stops too early is told
apart from one that is ill-formed at some symbol; the first fault decides.  A byte that belongs to
no character is a fault where it stands, but inside a string only where the string closes.
-/

namespace QuantumJobs
namespace Json

def isSpace (c : Symbol) : Bool :=
  c = some ' ' || c = some '\n' || c = some '\t' || c = some '\r'

def skipSpace (cs : List Symbol) : List Symbol := cs.dropWhile isSpace

/-! ## Strings -/

/-- How many bytes symbols take. -/
def byteLength (cs : List Symbol) : Nat := cs.foldr (fun c n => (c.elim 1 (·.utf8Size)) + n) 0

/-- Four hexadecimal digits.  Where fewer than four bytes are left, the text ends too early. -/
def readHex4 (cs : List Symbol) : Reading (Nat × List Symbol) :=
  match cs with
  | some a :: some b :: some c :: some d :: rest =>
      match Text.numeral? 16 [a, b, c, d] with
      | some n => .ok (n, rest)
      | none => .error .illFormed
  | _ => if byteLength (cs.take 4) < 4 then .error .endsInString else .error .illFormed

def isHighSurrogate (n : Nat) : Bool := 0xD800 ≤ n && n ≤ 0xDBFF

def isLowSurrogate (n : Nat) : Bool := 0xDC00 ≤ n && n ≤ 0xDFFF

/-- The character after `\u`: one unit, or a high surrogate and the low one that must follow it. -/
def readUnicode (cs : List Symbol) : Reading (Char × List Symbol) := do
  let (n, cs) ← readHex4 cs
  if isLowSurrogate n then .error .illFormed
  else if isHighSurrogate n then
    match cs with
    | [] => .error .endsInString
    | some '\\' :: [] => .error .endsInString
    | some '\\' :: some 'u' :: cs =>
        let (m, cs) ← readHex4 cs
        if isLowSurrogate m then
          .ok (Char.ofNat (0x10000 + (n - 0xD800) * 0x400 + (m - 0xDC00)), cs)
        else .error .illFormed
    | _ => .error .illFormed
  else .ok (Char.ofNat n, cs)

/-- The character that stands after a backslash. -/
def readEscape : List Symbol → Reading (Char × List Symbol)
  | [] => .error .endsInString
  | some 'u' :: cs => readUnicode cs
  | c :: cs =>
      match c with
      | some '"' => .ok ('"', cs)
      | some '\\' => .ok ('\\', cs)
      | some '/' => .ok ('/', cs)
      | some 'b' => .ok ('\x08', cs)
      | some 'f' => .ok ('\x0c', cs)
      | some 'n' => .ok ('\n', cs)
      | some 'r' => .ok ('\r', cs)
      | some 't' => .ok ('\t', cs)
      | _ => .error .illFormed

/-- The symbols up to the closing quote, in reverse onto `acc`.  Each round takes at least one
symbol, so a fuel of the text's length suffices. -/
def readSymbols : Nat → List Symbol → List Symbol → Reading (List Symbol × List Symbol)
  | 0, _, _ => .error .endsInString
  | _ + 1, _, [] => .error .endsInString
  | fuel + 1, acc, c :: cs =>
      if c = some '"' then .ok (acc, cs)
      else if c = some '\\' then do
        let (x, cs) ← readEscape cs
        readSymbols fuel (some x :: acc) cs
      else if c.any (·.toNat < 0x20) then .error .illFormed
      else readSymbols fuel (c :: acc) cs

/-- A string after its opening quote. -/
def readString (cs : List Symbol) : Reading (String × List Symbol) := do
  let (acc, rest) ← readSymbols (cs.length + 1) [] cs
  match acc.reverse.mapM id with
  | some cs => .ok (String.ofList cs, rest)
  | none => .error .illFormed

/-! ## Values -/

/-- The rest of a word such as `true` after its first letter. -/
def readWord (v : Json) : List Char → List Symbol → Reading (Json × List Symbol)
  | [], cs => .ok (v, cs)
  | _ :: _, [] => .error .ends
  | w :: ws, c :: cs => if c = some w then readWord v ws cs else .error .illFormed

/-- The items of an array from the first one on, in reverse onto `acc`. -/
def readItems (item : List Symbol → Reading (Json × List Symbol)) :
    Nat → List Json → List Symbol → Reading (List Json × List Symbol)
  | 0, _, _ => .error .illFormed
  | fuel + 1, acc, cs => do
      let (v, cs) ← item cs
      match skipSpace cs with
      | [] => .error .ends
      | some ']' :: cs => .ok (v :: acc, cs)
      | some ',' :: cs =>
          match skipSpace cs with
          | [] => .error .ends
          | some ']' :: _ => .error .illFormed
          | cs => readItems item fuel (v :: acc) cs
      | _ :: _ => .error .illFormed

/-- An array after its opening bracket. -/
def readArray (item : List Symbol → Reading (Json × List Symbol)) (cs : List Symbol) :
    Reading (Json × List Symbol) :=
  match skipSpace cs with
  | [] => .error .ends
  | some ']' :: cs => .ok (.arr [], cs)
  | cs => (readItems item (cs.length + 1) [] cs).map fun (acc, rest) => (.arr acc.reverse, rest)

/-- A field: its key after the opening quote, a colon and its value. -/
def readField (item : List Symbol → Reading (Json × List Symbol)) (cs : List Symbol) :
    Reading ((String × Json) × List Symbol) := do
  let (key, cs) ← readString cs
  match skipSpace cs with
  | [] => .error .ends
  | some ':' :: cs =>
      let (v, cs) ← item (skipSpace cs)
      .ok ((key, v), cs)
  | _ :: _ => .error .illFormed

/-- The fields of an object from the opening quote of the first key on, in reverse onto `acc`. -/
def readFields (item : List Symbol → Reading (Json × List Symbol)) :
    Nat → List (String × Json) → List Symbol → Reading (List (String × Json) × List Symbol)
  | 0, _, _ => .error .illFormed
  | fuel + 1, acc, cs => do
      let (f, cs) ← readField item cs
      match skipSpace cs with
      | [] => .error .ends
      | some '}' :: cs => .ok (f :: acc, cs)
      | some ',' :: cs =>
          match skipSpace cs with
          | [] => .error .ends
          | some '"' :: cs => readFields item fuel (f :: acc) cs
          | _ :: _ => .error .illFormed
      | _ :: _ => .error .illFormed

/-- An object after its opening brace. -/
def readObject (item : List Symbol → Reading (Json × List Symbol)) (cs : List Symbol) :
    Reading (Json × List Symbol) :=
  match skipSpace cs with
  | [] => .error .ends
  | some '}' :: cs => .ok (.obj [], cs)
  | some '"' :: cs =>
      (readFields item (cs.length + 1) [] cs).map fun (acc, rest) => (ofFields acc.reverse, rest)
  | _ :: _ => .error .illFormed

/-- A value that holds arrays and objects at most `depth` deep. -/
def readValue : Nat → List Symbol → Reading (Json × List Symbol)
  | _, [] => .error .ends
  | depth, c :: cs =>
      if c = some '"' then (readString cs).map fun (s, rest) => (.str s, rest)
      else if c = some '[' then
        match depth with
        | 0 => .error .illFormed
        | inner + 1 => readArray (readValue inner) cs
      else if c = some '{' then
        match depth with
        | 0 => .error .illFormed
        | inner + 1 => readObject (readValue inner) cs
      else if c = some 'n' then readWord .null ['u', 'l', 'l'] cs
      else if c = some 't' then readWord (.bool true) ['r', 'u', 'e'] cs
      else if c = some 'f' then readWord (.bool false) ['a', 'l', 's', 'e'] cs
      else if c = some '-' then readNumber true cs
      else if isDigit c then readNumber false (c :: cs)
      else .error .illFormed

/-- How deep arrays and objects may be nested in a text. -/
def maxDepth : Nat := 127

/-- The value that the symbols of a whole text denote. -/
def ofSymbols (cs : List Symbol) : Except SyntaxError Json := do
  let (v, rest) ← readValue maxDepth (skipSpace cs)
  if (skipSpace rest).isEmpty then .ok v else .error .illFormed

def ofText (s : String) : Except SyntaxError Json := ofSymbols (s.toList.map some)

/-- The value that the contents of a file denote. -/
def ofBlob (b : Blob) : Except SyntaxError Json := ofSymbols b.symbols

end Json
end QuantumJobs

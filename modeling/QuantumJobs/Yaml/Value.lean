import QuantumJobs.Decimal.Layout
import QuantumJobs.Dict
import QuantumJobs.Yaml.Node

/-!
# Value — what YAML scalars mean

A plain scalar is null, a truth value, an integer, a float, or else a string; every other scalar is
a string unless a tag says otherwise.  Integers beyond sixty-four bits are refused, and so are
mappings that hold a key twice.
-/

namespace QuantumJobs
namespace Yaml

inductive Value
  | null
  | bool (b : Bool)
  | int (n : Int)
  | float (x : Float)
  | str (s : String)
  | sequence (items : List Value)
  | mapping (entries : List (Value × Value))
  | tagged (tag : String) (v : Value)
  deriving Inhabited

namespace Value

/-! ## Scalars -/

def isNullText (s : String) : Bool := ["null", "Null", "NULL", "~"].contains s

def bool? (s : String) : Option Bool :=
  if ["true", "True", "TRUE"].contains s then some true
  else if ["false", "False", "FALSE"].contains s then some false
  else none

/-- Whether a text is a numeral with a leading zero, which counts as a string. -/
def isZeroLed (cs : List Char) : Bool :=
  let digits := match cs with
    | '-' :: rest => rest
    | '+' :: rest => rest
    | cs => cs
  match digits with
  | '0' :: rest => !rest.isEmpty && rest.all fun c => (Text.digit? c).isSome
  | _ => false

/-- A numeral with a base mark, or a decimal one without a leading zero. -/
def natural? : List Char → Option Nat
  | '0' :: 'x' :: cs => Text.numeral? 16 cs
  | '0' :: 'o' :: cs => Text.numeral? 8 cs
  | '0' :: 'b' :: cs => Text.numeral? 2 cs
  | cs => if isZeroLed cs then none else Text.numeral? 10 cs

/-- An integer with at most one sign. -/
def integer? : List Char → Option Int
  | '+' :: cs => (natural? cs).map Int.ofNat
  | '-' :: cs => (natural? cs).map fun n => -(n : Int)
  | cs => (natural? cs).map Int.ofNat

/-- Digits, at least one of them before or after a point, as a coefficient and its power of ten. -/
def mantissa? (cs : List Char) : Option (Nat × Int) :=
  let value (digits : List Char) : Option Nat :=
    if digits.isEmpty then some 0 else Text.numeral? 10 digits
  match Text.splitFirst? '.' cs with
  | none => (Text.numeral? 10 cs).map fun n => (n, 0)
  | some (whole, fraction) =>
      if whole.isEmpty && fraction.isEmpty then none
      else do
        let n ← value whole
        let m ← value fraction
        some (n * Nat.pow 10 fraction.length + m, -(fraction.length : Int))

/-- The exponent of ten after its mark. -/
def exponent? : List Char → Option Int
  | '+' :: cs => (Text.numeral? 10 cs).map Int.ofNat
  | '-' :: cs => (Text.numeral? 10 cs).map fun n => -(n : Int)
  | cs => (Text.numeral? 10 cs).map Int.ofNat

/-- The nearest float to a coefficient times a power of ten.  Powers beyond all floats are cut. -/
def scaled (coefficient : Nat) (power : Int) : Float :=
  if coefficient = 0 then 0.0
  else
    let size : Int := (Nat.toDigits 10 coefficient).length
    if 400 < size + power then Float.ofScientific 1 false 400
    else if size + power < -400 then 0.0
    else if power < 0 then Float.ofScientific coefficient true power.natAbs
    else Float.ofScientific coefficient false power.toNat

/-- A decimal without a sign. -/
def decimal? (cs : List Char) : Option Float := do
  let isMark (c : Char) : Bool := c = 'e' || c = 'E'
  let (n, power) ← mantissa? (cs.takeWhile fun c => !isMark c)
  match cs.dropWhile fun c => !isMark c with
  | [] => some (scaled n power)
  | _ :: rest => do
      let e ← exponent? rest
      some (scaled n (power + e))

def infinity : Float := 1.0 / 0.0

def nan : Float := 0.0 / 0.0

/-- A float: an infinity, the value that is no number, or a decimal in the range of floats. -/
def float? (s : String) : Option Float :=
  let finite (x : Option Float) : Option Float := x.filter Float.isFinite
  if [".inf", ".Inf", ".INF", "+.inf", "+.Inf", "+.INF"].contains s then some infinity
  else if ["-.inf", "-.Inf", "-.INF"].contains s then some (-infinity)
  else if [".nan", ".NaN", ".NAN"].contains s then some nan
  else
    match s.toList with
    | '+' :: cs => finite (decimal? cs)
    | '-' :: cs => finite ((decimal? cs).map fun x => -x)
    | cs => finite (decimal? cs)

def maxInteger : Int := 18446744073709551615

def minInteger : Int := -9223372036854775808

def maxWide : Int := 340282366920938463463374607431768211455

def minWide : Int := -170141183460469231731687303715884105728

/-- The value of an integer: one beyond sixty-four bits but within twice as many is refused, and one
beyond that is no integer. -/
def ofInteger (n : Int) : Option (Option Value) :=
  if minInteger ≤ n ∧ n ≤ maxInteger then some (some (.int n))
  else if minWide ≤ n ∧ n ≤ maxWide then some none
  else none

/-- The value of a plain scalar without a tag; empty if it is refused. -/
def ofPlain (s : String) : Option Value :=
  if s = "" || isNullText s then some .null
  else
    match bool? s with
    | some b => some (.bool b)
    | none =>
        match (integer? s.toList).bind ofInteger with
        | some v => v
        | none =>
            if isZeroLed s.toList then some (.str s)
            else
              match float? s with
              | some x => some (.float x)
              | none => some (.str s)

/-- The value of a scalar under a tag of the core schema. -/
def ofTagged (type : String) (s : String) : Option Value :=
  match type with
  | "bool" => (bool? s).map .bool
  | "int" => ((integer? s.toList).bind ofInteger).join
  | "float" => (float? s).map .float
  | "null" => if isNullText s then some .null else none
  | _ => some (.str s)

def coreTag : String := "tag:yaml.org,2002:"

/-- Takes the mark `!` off a tag unless it is all of the tag. -/
def withoutMark (cs : List Char) : List Char :=
  match cs with
  | '!' :: c :: rest => c :: rest
  | _ => cs

/-- The name of a tag of the document's own, which may be marked twice. -/
def ownName (tag : String) : String := String.ofList (withoutMark (withoutMark tag.toList))

/-- The value of a scalar; empty if it is refused. -/
def ofScalar (tag : Option String) (plain : Bool) (s : String) : Option Value :=
  let untagged := if plain then ofPlain s else some (.str s)
  match tag with
  | none => untagged
  | some t =>
      if t.startsWith "!" then untagged.map (.tagged (ownName t))
      else if t.startsWith coreTag then ofTagged (String.ofList (t.toList.drop coreTag.length)) s
      else some (.str s)

/-- The value of a collection, of which only a tag of the document's own says anything. -/
def ofCollection (tag : Option String) (v : Value) : Value :=
  match tag.filter (·.startsWith "!") with
  | some t => .tagged (ownName t) v
  | none => v

/-! ## Equality -/

mutual

/-- Equality of values; the value that is no number equals itself, and the order of a mapping does
not count. -/
def beq : Value → Value → Bool
  | .null, .null => true
  | .bool a, .bool b => a == b
  | .int a, .int b => a == b
  | .float a, .float b => a == b || (a.isNaN && b.isNaN)
  | .str a, .str b => a == b
  | .sequence as, .sequence bs => beqItems as bs
  | .mapping as, .mapping bs => as.length == bs.length && beqEntries as bs
  | .tagged t a, .tagged u b => t == u && beq a b
  | _, _ => false

def beqItems : List Value → List Value → Bool
  | [], [] => true
  | a :: as, b :: bs => beq a b && beqItems as bs
  | _, _ => false

/-- Whether each entry stands somewhere among others. -/
def beqEntries : List (Value × Value) → List (Value × Value) → Bool
  | [], _ => true
  | (k, a) :: as, bs => bs.any (fun e => beq k e.1 && beq a e.2) && beqEntries as bs

end

/-! ## Collections -/

/-- Whether no key stands twice. -/
def distinctKeys : List (Value × Value) → Bool
  | [] => true
  | (k, _) :: rest => !rest.any (fun e => beq k e.1) && distinctKeys rest

/-- Makes something of nodes while a number of aliases may still be followed; empty if something is
refused. -/
abbrev Making (α : Type) : Type := StateT Nat Option α

/-- The node that a node stands for. -/
def follow (d : Document) (n : Node) : Making Node := fun left =>
  match n, left with
  | .alias _, 0 => none
  | .alias number, left + 1 => (d.target? number).map (·, left)
  | n, left => some (n, left)

/-- The value of a node, given how a node inside of it is read, if it may have any. -/
def ofNodeBy (d : Document) (inner : Option (Node → Making Value)) (n : Node) : Making Value := do
  match ← follow d n, inner with
  | .scalar tag plain s, _ => StateT.lift (ofScalar tag plain s)
  | .sequence tag items, some read => return ofCollection tag (.sequence (← items.mapM read))
  | .mapping tag entries, some read =>
      let es ← entries.mapM fun (k, n) => return (← read k, ← read n)
      if distinctKeys es then return ofCollection tag (.mapping es) else failure
  | _, _ => failure

/-- The value of a node that lies at most `depth` collections deep. -/
def ofNode (d : Document) : Nat → Node → Making Value
  | 0 => ofNodeBy d none
  | depth + 1 => ofNodeBy d (some (ofNode d depth))

/-! ## Text -/

/-- Floats keep a point or an exponent, and only a negative exponent carries a sign. -/
def floatLayout : Decimal.Layout := ⟨-5, 15, false⟩

def floatText (x : Float) : String :=
  if x.isNaN then ".nan"
  else if x.isInf then (if x < 0.0 then "-.inf" else ".inf")
  else floatLayout.text x

end Value

/-! ## Documents -/

/-- How deep collections may be nested. -/
def maxDepth : Nat := 128

/-- How many aliases may be followed for each part of a document. -/
def aliasLimit : Nat := 100

/-- The text of a key, which must be a scalar. -/
def keyText (d : Document) (n : Node) : Value.Making String := do
  match ← Value.follow d n with
  | .scalar _ _ s => return s
  | _ => failure

/-- The entries of a mapping at the top of a document. -/
def topEntries (d : Document) (entries : List (Node × Node)) :
    Value.Making (List (String × Value)) :=
  entries.mapM fun (k, n) => return (← keyText d k, ← Value.ofNode d (maxDepth - 1) n)

/-- Whether a scalar at the top of a document says that there is nothing. -/
def isNothing (tag : Option String) (plain : Bool) (text : String) : Bool :=
  plain &&
    match tag with
    | none => text = "" || Value.isNullText text
    | some t => if t = Value.coreTag ++ "null" then Value.isNullText text else text = ""

/-- The entries of a text that is nothing or a mapping from scalars; of two under one key the last
wins. -/
def entries? (s : String) : Option (Dict Value) := do
  let d ← Document.ofText? s
  match d.root with
  | .mapping _ es =>
      let (es, _) ← (topEntries d es).run (aliasLimit * d.root.size)
      return Dict.ofList es
  | .scalar tag plain text => if isNothing tag plain text then some Dict.empty else none
  | _ => none

end Yaml
end QuantumJobs

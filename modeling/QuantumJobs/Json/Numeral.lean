import QuantumJobs.Json.Basic
import QuantumJobs.Text.Blank

/-!
# Numeral — the numbers of JSON text

A numeral without a point and an exponent is an integer while it lies between −2⁶³ and 2⁶⁴ − 1;
every other numeral, and `-0`, is a float.  A float is read by collecting the leading digits that
fit a word of sixty-four bits and scaling that word by a power of ten.
-/

namespace QuantumJobs
namespace Json

/-- Why a text is no JSON text. -/
inductive SyntaxError
  | endsInString
  | ends
  | illFormed
  deriving DecidableEq, Repr

/-- A symbol of a text: a character, or nothing for a byte that belongs to none. -/
abbrev Symbol := Option Char

/-- The result of reading from the front of a text: mostly a value and the rest of the text. -/
abbrev Reading := Except SyntaxError

/-! ## Scaling -/

/-- The nearest float to a power of ten. -/
def powerOfTen (n : Nat) : Float := Float.ofScientific 1 false n

/-- Divides by powers of ten, no divisor above `10 ^ 308`, and stops at zero. -/
def scaleDown : Nat → Float → Nat → Float
  | 0, x, _ => x
  | fuel + 1, x, n =>
      if n ≤ 308 then x / powerOfTen n
      else if x == 0.0 then x
      else scaleDown fuel (x / powerOfTen 308) (n - 308)

/-- The float `significand * 10 ^ e`, if it is finite. -/
def scaledFloat? (significand : Nat) (e : Int) : Option Float :=
  let x := significand.toUInt64.toFloat
  if e < 0 then some (scaleDown 5 x (-e).toNat)
  else if significand = 0 then some x
  else if 308 < e then none
  else
    let y := x * powerOfTen e.toNat
    if y.isInf then none else some y

/-! ## Digits -/

/-- Appends digits to a significand while it fits sixty-four bits; counts the digits taken. -/
def takeDigits (significand : Nat) : List Nat → Nat × Nat
  | [] => (significand, 0)
  | d :: rest =>
      if maxUnsigned < significand * 10 + d then (significand, 0)
      else
        let (s, n) := takeDigits (significand * 10 + d) rest
        (s, n + 1)

def isDigit (c : Symbol) : Bool := (c.bind Text.digit?).isSome

def digitValues (cs : List Symbol) : List Nat := cs.filterMap (·.bind Text.digit?)

/-- The number that a list of decimal digits denotes. -/
def ofDigits (ds : List Nat) : Nat := ds.foldl (fun n d => n * 10 + d) 0

/-- One or more digits; the text must not end where the first is due. -/
def readDigits (cs : List Symbol) : Reading (List Nat × List Symbol) :=
  match cs with
  | [] => .error .ends
  | c :: _ =>
      if isDigit c then .ok (digitValues (cs.takeWhile isDigit), cs.dropWhile isDigit)
      else .error .illFormed

/-- The digits before the point: a zero stands alone. -/
def readWhole (cs : List Symbol) : Reading (List Nat × List Symbol) := do
  let (digits, rest) ← readDigits cs
  match digits with
  | 0 :: _ :: _ => .error .illFormed
  | _ => .ok (digits, rest)

/-- The digits after a point, if there is one. -/
def readFraction : List Symbol → Reading (Option (List Nat) × List Symbol)
  | some '.' :: cs => (readDigits cs).map fun (ds, rest) => (some ds, rest)
  | cs => .ok (none, cs)

/-- The exponent, if there is one. -/
def readExponent : List Symbol → Reading (Option Int × List Symbol)
  | c :: cs =>
      if c = some 'e' ∨ c = some 'E' then
        let (negative, cs) := match cs with
          | some '+' :: cs => (false, cs)
          | some '-' :: cs => (true, cs)
          | cs => (false, cs)
        (readDigits cs).map fun (ds, rest) =>
          (some (if negative then -(ofDigits ds : Int) else ofDigits ds), rest)
      else .ok (none, c :: cs)
  | [] => .ok (none, [])

/-! ## Numbers -/

/-- The float that the parts of a numeral denote. -/
def floatOfParts? (whole fraction : List Nat) (e : Int) : Option Float :=
  let (s, taken) : Nat × Nat := takeDigits 0 whole
  let (s, places) : Nat × Nat := takeDigits s fraction
  let untaken : Nat := whole.length - taken
  scaledFloat? s (e + (untaken : Int) - (places : Int))

/-- The integer that a numeral without a point and an exponent denotes, if it is one. -/
def intOfDigits? (negative : Bool) (whole : List Nat) : Option Int :=
  let n := ofDigits whole
  if negative then
    if 0 < n ∧ n ≤ 9223372036854775808 then some (-(n : Int)) else none
  else if n ≤ maxUnsigned then some n else none

/-- A number after its sign. -/
def readNumber (negative : Bool) (cs : List Symbol) : Reading (Json × List Symbol) := do
  let (whole, cs) ← readWhole cs
  let (fraction, cs) ← readFraction cs
  let (e, cs) ← readExponent cs
  let asFloat : Reading (Json × List Symbol) :=
    match floatOfParts? whole (fraction.getD []) (e.getD 0) with
    | some x => .ok (.float (if negative then -x else x), cs)
    | none => .error .illFormed
  match fraction, e with
  | none, none =>
      match intOfDigits? negative whole with
      | some n => .ok (.int n, cs)
      | none => asFloat
  | _, _ => asFloat

end Json
end QuantumJobs

/-!
# Shortest — the fewest decimal digits that read back as a binary float

A finite float is `m · 2 ^ q`.  The reals that round to it form an interval around it, whose ends
belong to it when `m` is even.  For one digit, two digits and so on the two neighbours of the value
on that decimal grid are tried; the first grid with a neighbour inside the interval wins, and of two
neighbours inside it the nearer one, on a tie the one with the even last digit.
-/

namespace QuantumJobs
namespace Decimal

/-- A finite binary float without its sign: `significand * 2 ^ exponent`. -/
structure Binary where
  significand : Nat
  exponent : Int
  /-- The float below is only half as far away as the float above. -/
  narrowBelow : Bool
  deriving DecidableEq, Repr

/-- The value `coefficient * 10 ^ exponent`. -/
structure Scaled where
  coefficient : Nat
  exponent : Int
  deriving DecidableEq, Repr

/-! ## Exact quotients -/

/-- A quotient of naturals with a positive denominator. -/
structure Ratio where
  num : Nat
  den : Nat
  deriving DecidableEq, Repr

namespace Ratio

def le (a b : Ratio) : Bool := a.num * b.den ≤ b.num * a.den

def lt (a b : Ratio) : Bool := a.num * b.den < b.num * a.den

/-- `n * base ^ e`. -/
def scaled (n base : Nat) (e : Int) : Ratio :=
  if 0 ≤ e then ⟨n * Nat.pow base e.toNat, 1⟩ else ⟨n, Nat.pow base (-e).toNat⟩

/-- `a / 10 ^ e`. -/
def shiftDown (a : Ratio) (e : Int) : Ratio :=
  if 0 ≤ e then ⟨a.num, a.den * Nat.pow 10 e.toNat⟩ else ⟨a.num * Nat.pow 10 (-e).toNat, a.den⟩

def floor (a : Ratio) : Nat := a.num / a.den

/-- The distance from `a` up to `b`. -/
def gap (a b : Ratio) : Ratio := ⟨b.num * a.den - a.num * b.den, a.den * b.den⟩

end Ratio

/-! ## The interval of a float -/

def Binary.value (b : Binary) : Ratio :=
  Ratio.scaled b.significand 2 b.exponent

/-- The lower end of the reals that round to the float. -/
def Binary.lower (b : Binary) : Ratio :=
  Ratio.scaled (4 * b.significand - if b.narrowBelow then 1 else 2) 2 (b.exponent - 2)

/-- The upper end of the reals that round to the float. -/
def Binary.upper (b : Binary) : Ratio :=
  Ratio.scaled (4 * b.significand + 2) 2 (b.exponent - 2)

/-- Whether a real rounds to the float. -/
def Binary.covers (b : Binary) (r : Ratio) : Bool :=
  if b.significand % 2 = 0 then b.lower.le r && r.le b.upper else b.lower.lt r && r.lt b.upper

/-! ## Searching the grids -/

/-- The exponent of the first decimal digit of a positive float. -/
def Binary.leadingExponent (b : Binary) : Int :=
  let margin : Nat := 400
  let scaled := (b.value.shiftDown (-(margin : Int))).floor
  ((Nat.toDigits 10 scaled).length : Int) - 1 - margin

/-- The neighbour of the value on the grid of step `10 ^ e` that rounds to the float, if there is
one; of two the nearer, and of two equally near the even one. -/
def Binary.onGrid? (b : Binary) (e : Int) : Option Scaled :=
  let below := (b.value.shiftDown e).floor
  let low := Ratio.scaled below 10 e
  let high := Ratio.scaled (below + 1) 10 e
  match b.covers low, b.covers high with
  | true, true =>
      let down := low.gap b.value
      let up := b.value.gap high
      if down.lt up || (down.le up && below % 2 = 0) then some ⟨below, e⟩ else some ⟨below + 1, e⟩
  | true, false => some ⟨below, e⟩
  | false, true => some ⟨below + 1, e⟩
  | false, false => none

/-- Tries grids of one, two, … digits, at most `count` of them, from the given step downwards. -/
def Binary.search (b : Binary) : Nat → Int → Scaled
  | 0, e => ⟨(b.value.shiftDown e).floor, e⟩
  | count + 1, e => (b.onGrid? e).getD (Binary.search b count (e - 1))

/-- The shortest decimal that reads back as the float: seventeen digits always suffice. -/
def Binary.shortest (b : Binary) : Scaled :=
  b.search 17 b.leadingExponent

/-! ## Floats of sixty-four bits -/

/-- The number of fractions that floats of one exponent have: 2⁵². -/
def fractions : Nat := 4503599627370496

/-- The value of the bit for the sign: 2⁶³. -/
def signBit : Nat := 9223372036854775808

/-- The sign and the binary value of a finite float. -/
def ofFloat (x : Float) : Bool × Binary :=
  let bits : Nat := x.toBits.toNat
  let fraction : Nat := bits % fractions
  let biased : Nat := bits / fractions % 2048
  let binary : Binary :=
    if biased = 0 then ⟨fraction, -1074, false⟩
    else ⟨fraction + fractions, (biased : Int) - 1075, fraction = 0 && 1 < biased⟩
  (bits / signBit = 1, binary)

end Decimal
end QuantumJobs

import QuantumJobs.Decimal.Shortest

/-!
# Layout — how the digits of a float are set out

A format says between which exponents a float is written with its point in place and how the
exponent of the scientific form is signed.  The digits are the shortest ones that read back.
-/

namespace QuantumJobs
namespace Decimal

/-- The choices of a float format. -/
structure Layout where
  /-- The least exponent of the first digit that is written positionally. -/
  lowest : Int
  /-- The greatest exponent of the first digit that is written positionally. -/
  highest : Int
  /-- Whether a positive exponent carries a plus sign. -/
  plusSign : Bool
  deriving DecidableEq, Repr

/-- The coefficient without the zeros at its end, for a positive coefficient. -/
def stripZeros : Nat → Nat → Nat
  | 0, n => n
  | fuel + 1, n => if n % 10 = 0 then stripZeros fuel (n / 10) else n

/-- The digits of a decimal and the exponent of the first of them. -/
def Scaled.significant (d : Scaled) : List Char × Int :=
  let all := Nat.toDigits 10 d.coefficient
  (Nat.toDigits 10 (stripZeros all.length d.coefficient), d.exponent + all.length - 1)

/-- Sets out digits whose first one has the given exponent. -/
def Layout.place (l : Layout) (digits : List Char) (e : Int) : String :=
  let zeros (n : Int) : List Char := List.replicate n.toNat '0'
  let count : Int := digits.length
  if l.lowest ≤ e && e ≤ l.highest then
    if count - 1 ≤ e then String.ofList (digits ++ zeros (e - count + 1)) ++ ".0"
    else if 0 ≤ e then
      String.ofList (digits.take (e.toNat + 1)) ++ "." ++ String.ofList (digits.drop (e.toNat + 1))
    else "0." ++ String.ofList (zeros (-e - 1) ++ digits)
  else
    let mantissa := match digits with
      | [] => ""
      | [d] => d.toString
      | d :: rest => d.toString ++ "." ++ String.ofList rest
    let sign := if 0 ≤ e && l.plusSign then "+" else ""
    mantissa ++ "e" ++ sign ++ toString e

/-- The text of a finite float. -/
def Layout.text (l : Layout) (x : Float) : String :=
  let (negative, binary) := ofFloat x
  let body :=
    if binary.significand = 0 then "0.0"
    else
      let (digits, e) := binary.shortest.significant
      l.place digits e
  if negative then "-" ++ body else body

/-! ## Fixed places -/

/-- The quotient rounded to the nearest integer, a half going to the even neighbour. -/
def roundDiv (num den : Nat) : Nat :=
  let q := num / den
  let r := num % den
  if den < 2 * r || (2 * r = den && q % 2 = 1) then q + 1 else q

/-- A float of at least zero with the given number of places after the point. -/
def fixed (places : Nat) (x : Float) : String :=
  let v := (ofFloat x).2.value
  let scaled := roundDiv (v.num * Nat.pow 10 places) v.den
  let digits := Nat.toDigits 10 scaled
  let padded := List.replicate (places + 1 - digits.length) '0' ++ digits
  let whole := padded.length - places
  String.ofList (padded.take whole) ++ "." ++ String.ofList (padded.drop whole)

end Decimal
end QuantumJobs

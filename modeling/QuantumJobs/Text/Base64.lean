/-!
# Base64 — bytes as letters and digits

Three bytes are written as four signs of six bits each; a last group that is not full is filled up
with equals signs.
-/

namespace QuantumJobs
namespace Base64

/-- The sign of six bits. -/
def sign (n : Nat) : Char :=
  if n < 26 then Char.ofNat (65 + n)
  else if n < 52 then Char.ofNat (71 + n)
  else if n < 62 then Char.ofNat (n - 4)
  else if n = 62 then '+'
  else '/'

def encode : List UInt8 → List Char
  | [] => []
  | [a] =>
      let n := a.toNat * 16
      [sign (n / 64), sign (n % 64), '=', '=']
  | [a, b] =>
      let n := (a.toNat * 256 + b.toNat) * 4
      [sign (n / 4096), sign (n / 64 % 64), sign (n % 64), '=']
  | a :: b :: c :: rest =>
      let n := (a.toNat * 256 + b.toNat) * 256 + c.toNat
      sign (n / 262144) :: sign (n / 4096 % 64) :: sign (n / 64 % 64) :: sign (n % 64)
        :: encode rest

def ofText (s : String) : String := String.ofList (encode s.toUTF8.toList)

end Base64
end QuantumJobs

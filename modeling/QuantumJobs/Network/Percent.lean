import QuantumJobs.Text.Blank
import QuantumJobs.Text.Utf8

/-!
# Percent — percent-encoded text

A character that may not stand in a part of a URL is written as its bytes, each as a percent sign
and two hexadecimal digits.
-/

namespace QuantumJobs
namespace Percent

/-! ## Writing -/

def hexByte (n : Nat) : List Char :=
  ['%', (Nat.digitChar (n / 16)).toUpper, (Nat.digitChar (n % 16)).toUpper]

def utf8Bytes (c : Char) : List UInt8 := c.toString.toUTF8.toList

/-- Encodes the characters that the test picks, and all that are not visible ASCII or a space. -/
def encode (pick : Char → Bool) (cs : List Char) : List Char :=
  cs.flatMap fun c =>
    if c.toNat < 0x20 || 0x7F ≤ c.toNat || pick c then
      (utf8Bytes c).flatMap fun b => hexByte b.toNat
    else [c]

/-! ## Reading -/

/-- The bytes of a text; a percent sign without two digits behind it stands for itself. -/
def bytes : List Char → List UInt8
  | [] => []
  | '%' :: a :: b :: rest =>
      match Text.digitIn? 16 a, Text.digitIn? 16 b with
      | some high, some low => UInt8.ofNat (16 * high + low) :: bytes rest
      | _, _ => 0x25 :: bytes (a :: b :: rest)
  | c :: rest => utf8Bytes c ++ bytes rest

/-- The text behind the encoding, if the bytes spell one. -/
def decode? (cs : List Char) : Option (List Char) := (Utf8.decode (bytes cs)).mapM (·.char?)

end Percent
end QuantumJobs

import QuantumJobs.Text.Unshown

/-!
# Quoted — text between quotation marks, with escapes

The form in which a diagnostic shows a text: double quotes around it, a backslash before a double
quote and a backslash, short escapes for the common controls, and `\u{…}` with lower-case
hexadecimal digits for every other character that shows nothing.
-/

namespace QuantumJobs
namespace Text

/-- The lower-case hexadecimal digits of a number, without leading zeros. -/
def hexDigits (n : Nat) : String :=
  String.ofList (Nat.toDigits 16 n)

/-- How one character stands inside quotation marks. -/
def escaped (c : Char) : String :=
  if c = '"' then "\\\""
  else if c = '\\' then "\\\\"
  else if c = '\n' then "\\n"
  else if c = '\r' then "\\r"
  else if c = '\t' then "\\t"
  else if c.toNat = 0 then "\\0"
  else if c.toNat < 0x20 || c.toNat = 0x7F || (0x80 ≤ c.toNat && isUnshown c) then
    "\\u\x7b" ++ hexDigits c.toNat ++ "\x7d"
  else c.toString

/-- The text between double quotes, escaped. -/
def quoted (s : String) : String :=
  "\"" ++ String.join (s.toList.map escaped) ++ "\""

end Text
end QuantumJobs

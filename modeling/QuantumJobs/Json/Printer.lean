import QuantumJobs.Decimal.Layout
import QuantumJobs.Json.Basic
import QuantumJobs.Text.Quoted

/-!
# Printer — JSON values as text

A value is written either on one line without spaces or spread over lines with an indentation of
two.  Fields are written in the order in which they stand.  A float is written with the fewest
digits that read back, positionally for exponents from −5 to 15.
-/

namespace QuantumJobs
namespace Json

/-- Floats keep a point or an exponent, and a positive exponent carries its sign. -/
def floatLayout : Decimal.Layout := ⟨-5, 15, true⟩

/-! ## Strings -/

/-- Two hexadecimal digits. -/
def hexPair (n : Nat) : String :=
  String.ofList [Nat.digitChar (n / 16), Nat.digitChar (n % 16)]

/-- How one character stands inside a JSON string. -/
def escapedChar (c : Char) : String :=
  if c = '"' then "\\\""
  else if c = '\\' then "\\\\"
  else if c = '\x08' then "\\b"
  else if c = '\x0c' then "\\f"
  else if c = '\n' then "\\n"
  else if c = '\r' then "\\r"
  else if c = '\t' then "\\t"
  else if c.toNat < 0x20 then "\\u00" ++ hexPair c.toNat
  else c.toString

def stringText (s : String) : String :=
  "\"" ++ String.join (s.toList.map escapedChar) ++ "\""

/-! ## Values -/

/-- A value that is neither an array nor an object. -/
def scalarText : Json → String
  | .bool true => "true"
  | .bool false => "false"
  | .int n => toString n
  | .float x => floatLayout.text x
  | .str s => stringText s
  | _ => "null"

mutual

/-- The value on one line. -/
def text : Json → String
  | .arr items => "[" ++ ",".intercalate (itemTexts items) ++ "]"
  | .obj fields => "\x7b" ++ ",".intercalate (fieldTexts fields) ++ "\x7d"
  | v => scalarText v

def itemTexts : List Json → List String
  | [] => []
  | v :: rest => v.text :: itemTexts rest

def fieldTexts : List (String × Json) → List String
  | [] => []
  | (k, v) :: rest => (stringText k ++ ":" ++ v.text) :: fieldTexts rest

end

/-- A line break and the indentation of a level. -/
def newline (level : Nat) : String :=
  String.ofList ('\n' :: List.replicate (2 * level) ' ')

/-- The lines of an array or object between its brackets. -/
def spread (level : Nat) (opening closing : String) (parts : List String) : String :=
  if parts.isEmpty then opening ++ closing
  else
    opening ++ newline (level + 1) ++ ("," ++ newline (level + 1)).intercalate parts
      ++ newline level ++ closing

mutual

/-- The value over several lines, for a place at the given level. -/
def prettyAt (level : Nat) : Json → String
  | .arr items => spread level "[" "]" (prettyItems (level + 1) items)
  | .obj fields => spread level "\x7b" "\x7d" (prettyFields (level + 1) fields)
  | v => scalarText v

def prettyItems (level : Nat) : List Json → List String
  | [] => []
  | v :: rest => prettyAt level v :: prettyItems level rest

def prettyFields (level : Nat) : List (String × Json) → List String
  | [] => []
  | (k, v) :: rest => (stringText k ++ ": " ++ prettyAt level v) :: prettyFields level rest

end

def pretty (v : Json) : String := prettyAt 0 v

end Json
end QuantumJobs

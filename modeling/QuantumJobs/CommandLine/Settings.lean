import QuantumJobs.CommandLine.Trouble
import QuantumJobs.Config
import QuantumJobs.Yaml.Value

/-!
# Settings — configurations from files and assignments

A configuration is read from a YAML file that maps keys to scalars, and is then changed by
assignments from the command line, from left to right.
-/

namespace QuantumJobs
namespace CommandLine

/-! ## Assignments -/

/-- Reads `KEY=VALUE`: the key is trimmed and must not be blank, the value is all that stands behind
the first equals sign. -/
def readAssignment (arg : String) : Except Trouble (String × String) :=
  match Text.splitFirst? '=' arg.toList with
  | none => .error (.because ("Invalid --set '" ++ arg ++ "': expected KEY=VALUE"))
  | some (key, value) =>
      let key := Text.trimChars key
      if key.isEmpty then .error (.because ("Invalid --set '" ++ arg ++ "': empty key"))
      else .ok (String.ofList key, String.ofList value)

def assign (c : Config) (arg : String) : Except Trouble Config :=
  (readAssignment arg).map fun (key, value) => c.insert key value

/-! ## Files -/

/-- The text of a scalar; empty for null, a trouble for anything but a scalar. -/
def scalarText (key : String) : Yaml.Value → Except Trouble (Option String)
  | .null => .ok none
  | .str s => .ok (some s)
  | .int n => .ok (some (toString n))
  | .float x => .ok (some (Yaml.Value.floatText x))
  | .bool b => .ok (some (if b then "true" else "false"))
  | _ => .error (.because ("Configuration key '" ++ key ++ "' must be a scalar"))

/-- Adds entries in key order; null adds nothing. -/
def addEntries : List (String × Yaml.Value) → Config → Except Trouble Config
  | [], c => .ok c
  | (key, v) :: rest, c => do
      match ← scalarText key v with
      | some text => addEntries rest (c.insert key text)
      | none => addEntries rest c

/-- The configuration that a YAML text holds. -/
def readYaml (text : String) : Except Trouble Config :=
  match Yaml.entries? text with
  | none => .error (.because "Invalid YAML configuration")
  | some values => addEntries values.entries Dict.empty

end CommandLine
end QuantumJobs

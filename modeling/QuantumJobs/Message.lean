import QuantumJobs.Fault

/-!
# Message — strict access to the fields of a backend message

A message is a JSON value.  Each accessor gives the value under a name in the wanted type, or a
fault that keeps the whole message; none falls back to a default.
-/

namespace QuantumJobs
namespace Message

/-- The value under a name, of any type. -/
def field (m : Json) (name : String) : Outcome Json :=
  match m with
  | .obj fields =>
      match Entries.find? fields name with
      | some v => .ok v
      | none => .error (.malformedResponse ("missing field '" ++ name ++ "'") m)
  | _ => .error (.malformedResponse ("expected an object containing '" ++ name ++ "'") m)

/-- The value under a name as far as a view accepts it; `what` names the view. -/
def fieldAs {α : Type} (view : Json → Option α) (what : String) (m : Json) (name : String) :
    Outcome α := do
  let v ← field m name
  match view v with
  | some a => .ok a
  | none => .error (.malformedResponse ("field '" ++ name ++ "' is not " ++ what) m)

def text (m : Json) (name : String) : Outcome String :=
  fieldAs Json.asString? "a string" m name

/-- A text that may be absent or null; in a message that is no object it counts as absent. -/
def optionalText (m : Json) (name : String) : Outcome (Option String) :=
  match m.get? name with
  | none => .ok none
  | some .null => .ok none
  | some (.str s) => .ok (some s)
  | some _ => .error (.malformedResponse ("field '" ++ name ++ "' is not a string") m)

def signed (m : Json) (name : String) : Outcome Int :=
  fieldAs Json.asSigned? "an integer" m name

def unsigned (m : Json) (name : String) : Outcome Nat :=
  fieldAs Json.asUnsigned? "a non-negative integer" m name

def object (m : Json) (name : String) : Outcome (List (String × Json)) :=
  fieldAs (fun | .obj fields => some fields | _ => none) "an object" m name

def array (m : Json) (name : String) : Outcome (List Json) :=
  fieldAs (fun | .arr items => some items | _ => none) "an array" m name

end Message
end QuantumJobs

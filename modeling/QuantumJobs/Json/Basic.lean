import QuantumJobs.Dict

/-!
# Json — JSON values

Messages, records and reports are JSON values.  An integer is kept apart from a float, because
fields are typed by that difference.  The fields of an object stand in a list: a value that was read
or normalised has them in ascending key order, a document that is about to be written has them in
the order in which it is written.
-/

namespace QuantumJobs

inductive Json
  | null
  | bool (b : Bool)
  | int (n : Int)
  | float (x : Float)
  | str (s : String)
  | arr (items : List Json)
  | obj (fields : List (String × Json))
  deriving Inhabited

namespace Json

/-! ## Equality -/

mutual

/-- Equality of values; floats are compared as numbers. -/
def beq : Json → Json → Bool
  | .null, .null => true
  | .bool a, .bool b => a == b
  | .int a, .int b => a == b
  | .float a, .float b => a == b
  | .str a, .str b => a == b
  | .arr as, .arr bs => beqItems as bs
  | .obj as, .obj bs => beqFields as bs
  | _, _ => false

def beqItems : List Json → List Json → Bool
  | [], [] => true
  | a :: as, b :: bs => beq a b && beqItems as bs
  | _, _ => false

def beqFields : List (String × Json) → List (String × Json) → Bool
  | [], [] => true
  | (k, a) :: as, (l, b) :: bs => k == l && beq a b && beqFields as bs
  | _, _ => false

end

instance : BEq Json := ⟨beq⟩

/-! ## Objects -/

/-- An object from its fields in any order; the last field under a key wins. -/
def ofFields (fields : List (String × Json)) : Json :=
  .obj (fields.foldl (fun es f => Entries.insert f.1 f.2 es) [])

mutual

/-- The same value with the fields of every object in ascending key order. -/
def sorted : Json → Json
  | .arr items => .arr (sortedItems items)
  | .obj fields => ofFields (sortedFields fields)
  | v => v

def sortedItems : List Json → List Json
  | [] => []
  | v :: rest => v.sorted :: sortedItems rest

def sortedFields : List (String × Json) → List (String × Json)
  | [] => []
  | (k, v) :: rest => (k, v.sorted) :: sortedFields rest

end

/-- The value under a key, if the value is an object that has it. -/
def get? : Json → String → Option Json
  | .obj fields, key => Entries.find? fields key
  | _, _ => none

/-! ## Views -/

def isNull : Json → Bool
  | .null => true
  | _ => false

def asString? : Json → Option String
  | .str s => some s
  | _ => none

/-- The greatest signed number of sixty-four bits. -/
def maxSigned : Int := 9223372036854775807

/-- The least signed number of sixty-four bits. -/
def minSigned : Int := -9223372036854775808

/-- The greatest unsigned number of sixty-four bits. -/
def maxUnsigned : Nat := 18446744073709551615

/-- An integer of sixty-four bits with a sign. -/
def asSigned? : Json → Option Int
  | .int n => if minSigned ≤ n ∧ n ≤ maxSigned then some n else none
  | _ => none

/-- An integer of sixty-four bits without a sign. -/
def asUnsigned? : Json → Option Nat
  | .int n => if 0 ≤ n ∧ n ≤ (maxUnsigned : Int) then some n.toNat else none
  | _ => none

/-- An object of strings. -/
def ofStrings (d : Dict String) : Json :=
  .obj (d.entries.map fun e => (e.1, .str e.2))

end Json
end QuantumJobs

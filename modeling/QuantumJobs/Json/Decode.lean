import QuantumJobs.Instant
import QuantumJobs.Json.Reader
import QuantumJobs.Json.Printer

/-!
# Decode — typed values out of JSON values

A decoder answers with a typed value or with the mismatch that it met first.  A record is read from
an object by the names of its fields, or from an array by their positions.  In an object the fields
that are present are read in key order before a missing one is reported, so of two faults the
present one wins.
-/

namespace QuantumJobs
namespace Json

/-! ## Mismatches -/

/-- What a message says about the value that was found. -/
inductive Found
  | null
  | bool (b : Bool)
  | int (n : Int)
  | float (x : Float)
  | str (s : String)
  | sequence
  | map
  deriving Inhabited

def Found.text : Found → String
  | .null => "null"
  | .bool b => "boolean `" ++ (if b then "true" else "false") ++ "`"
  | .int n => "integer `" ++ toString n ++ "`"
  | .float x => "floating point `" ++ floatLayout.text x ++ "`"
  | .str s => "string " ++ Text.quoted s
  | .sequence => "sequence"
  | .map => "map"

def found : Json → Found
  | .null => .null
  | .bool b => .bool b
  | .int n => .int n
  | .float x => .float x
  | .str s => .str s
  | .arr _ => .sequence
  | .obj _ => .map

/-- Why a value does not have the wanted type. -/
inductive Mismatch
  | missingField (name : String)
  | wrongType (found : Found) (expected : String)
  | wrongValue (found : Found) (expected : String)
  | wrongLength (length : Nat) (expected : String)
  | unknownVariant (name : String) (options : List String)
  | noInstant (fault : Instant.Fault)
  deriving Inhabited

/-- The names that an enumeration offers, as a message lists them. -/
def optionsText (options : List String) : String :=
  let marked := options.map fun o => "`" ++ o ++ "`"
  match marked with
  | [] => "there are no variants"
  | [a] => "expected " ++ a
  | [a, b] => "expected " ++ a ++ " or " ++ b
  | _ => "expected one of " ++ ", ".intercalate marked

def Mismatch.message : Mismatch → String
  | .missingField name => "missing field `" ++ name ++ "`"
  | .wrongType found expected => "invalid type: " ++ found.text ++ ", expected " ++ expected
  | .wrongValue found expected => "invalid value: " ++ found.text ++ ", expected " ++ expected
  | .wrongLength n expected => "invalid length " ++ toString n ++ ", expected " ++ expected
  | .unknownVariant name options => "unknown variant `" ++ name ++ "`, " ++ optionsText options
  | .noInstant fault => fault.message

abbrev Decoding := Except Mismatch

/-- A decoder of values of a type. -/
abbrev Decoder (α : Type) := Json → Decoding α

/-- The mismatch of a value whose type is not the expected one. -/
def mismatch (v : Json) (expected : String) : Mismatch :=
  .wrongType v.found expected

/-! ## Scalars -/

def asText : Decoder String
  | .str s => .ok s
  | v => .error (mismatch v "a string")

/-- An integer between two bounds, of a type with the given name. -/
def asIntegerIn (low high : Int) (type : String) : Decoder Int
  | .int n => if low ≤ n ∧ n ≤ high then .ok n else .error (.wrongValue (.int n) type)
  | v => .error (mismatch v type)

def asSigned : Decoder Int := asIntegerIn minSigned maxSigned "i64"

def asUnsigned (v : Json) : Decoding Nat :=
  (asIntegerIn 0 maxUnsigned "u64" v).map Int.toNat

/-- An unsigned number of thirty-two bits. -/
def asShort (v : Json) : Decoding Nat :=
  (asIntegerIn 0 4294967295 "u32" v).map Int.toNat

def asInstant : Decoder Instant
  | .str s => (Instant.ofText s).mapError .noInstant
  | v => .error (mismatch v "an RFC 3339 formatted date and time string")

/-- Any value at all. -/
def asIs : Decoder Json := .ok

/-! ## Collections -/

/-- A value that may be null. -/
def nullable {α : Type} (d : Decoder α) : Decoder (Option α)
  | .null => .ok none
  | v => (d v).map some

def listOf {α : Type} (d : Decoder α) : Decoder (List α)
  | .arr items => items.mapM d
  | v => .error (mismatch v "a sequence")

def dictOf {α : Type} (d : Decoder α) : Decoder (Dict α)
  | .obj fields => do
      let es ← fields.mapM fun f => (d f.2).map fun a => (f.1, a)
      .ok (Dict.ofList es)
  | v => .error (mismatch v "a map")

/-! ## Places

The value inside a tagged value is held back until the tag is known.  A held value is read by
slightly different rules for arrays that are too long and for variants with contents.
-/

/-- Where a value stands. -/
inductive Place
  | free
  | held
  deriving DecidableEq, Repr

def elements (n : Nat) : String :=
  toString n ++ (if n = 1 then " element" else " elements")

/-- The mismatch of an array with more items than a record has fields. -/
def Place.tooLong (place : Place) (fields length : Nat) : Mismatch :=
  match place with
  | .free => .wrongLength length "fewer elements in array"
  | .held => .wrongLength length (elements fields ++ " in sequence")

/-! ## Enumerations -/

/-- An enumeration whose variants carry nothing: a variant's name, or an object that holds null
under it. -/
def enumeration {α : Type} (variants : List (String × α)) (place : Place) : Decoder α :=
  let variant (name : String) : Decoding α :=
    match Entries.find? variants name with
    | some a => .ok a
    | none => .error (.unknownVariant name (variants.map (·.1)))
  fun
  | .str name => variant name
  | .obj [(name, content)] => do
      let a ← variant name
      match content, place with
      | .null, _ => .ok a
      | .obj [], .held => .ok a
      | v, _ => .error (mismatch v "unit")
  | .obj _ => .error (.wrongValue .map "map with a single key")
  | v => .error (mismatch v "string or map")

/-! ## Records -/

/-- One field of a record, as far as it can be checked by itself. -/
structure Field where
  name : String
  /-- Whether the field may be absent. -/
  optional : Bool
  check : Json → Decoding Unit

/-- The fields of a record in declaration order, and how its value is built from what stands under
their names. -/
structure Shape (α : Type) where
  fields : List Field
  build : (String → Option Json) → Decoding α

namespace Shape

variable {α β : Type}

instance : Applicative Shape where
  pure a := { fields := [], build := fun _ => .ok a }
  seq f x :=
    { fields := f.fields ++ (x ()).fields
      build := fun source => do
        let g ← f.build source
        let a ← (x ()).build source
        .ok (g a) }

/-- A field that must be present. -/
def required (name : String) (d : Decoder α) : Shape α :=
  { fields := [{ name, optional := false, check := fun v => (d v).map fun _ => () }]
    build := fun source =>
      match source name with
      | some v => d v
      | none => .error (.missingField name) }

/-- A field that stands for a given value when it is absent. -/
def withDefault (name : String) (absent : α) (d : Decoder α) : Shape α :=
  { fields := [{ name, optional := true, check := fun v => (d v).map fun _ => () }]
    build := fun source =>
      match source name with
      | some v => d v
      | none => .ok absent }

/-- A field that may be absent or null. -/
def optional (name : String) (d : Decoder α) : Shape (Option α) :=
  withDefault name none (nullable d)

end Shape

/-- Checks every field that an object has, in the object's order. -/
def checkFields (fields : List Field) : List (String × Json) → Decoding Unit
  | [] => .ok ()
  | (key, v) :: rest => do
      match fields.find? (·.name = key) with
      | some f => f.check v
      | none => .ok ()
      checkFields fields rest

/-- Checks the items of an array against the fields in order, from position `i` on.  An item may be
missing only where its field may. -/
def checkItems (what : String) (place : Place) (count : Nat) :
    Nat → List Field → List Json → Decoding Unit
  | i, f :: fields, v :: items => do
      f.check v
      checkItems what place count (i + 1) fields items
  | i, f :: fields, [] =>
      if f.optional then checkItems what place count (i + 1) fields []
      else .error (.wrongLength i (what ++ " with " ++ elements count))
  | _, [], [] => .ok ()
  | i, [], items => .error (place.tooLong count (i + items.length))

/-- Reads a record from the items of an array; `what` names it in messages. -/
def recordOfItems {α : Type} (what : String) (shape : Shape α) (place : Place)
    (items : List Json) : Decoding α := do
  checkItems what place shape.fields.length 0 shape.fields items
  shape.build (Entries.find? ((shape.fields.map (·.name)).zip items))

/-- Reads a record from the fields of an object. -/
def recordOfFields {α : Type} (shape : Shape α) (fields : List (String × Json)) : Decoding α := do
  checkFields shape.fields fields
  shape.build (Entries.find? fields)

/-- A record with the given type name. -/
def record {α : Type} (type : String) (shape : Shape α) (place : Place) : Decoder α
  | .obj fields => recordOfFields shape fields
  | .arr items => recordOfItems ("struct " ++ type) shape place items
  | v => .error (mismatch v ("struct " ++ type))

/-! ## Faults of texts -/

/-- Why a text does not decode: it stops too early, is ill-formed, or denotes a value of another
type. -/
inductive Error
  | unfinished
  | illFormed
  | mismatched (m : Mismatch)
  deriving Inhabited

def Error.message : Error → String
  | .unfinished => "the text ends too early"
  | .illFormed => "the text is ill-formed"
  | .mismatched m => m.message

def Error.ofSyntax : SyntaxError → Error
  | .endsInString => .unfinished
  | .ends => .unfinished
  | .illFormed => .illFormed

/-- Reads a text and decodes its value. -/
def decodeText {α : Type} (d : Decoder α) (s : String) : Except Error α := do
  let v ← (ofText s).mapError Error.ofSyntax
  (d v).mapError .mismatched

end Json
end QuantumJobs

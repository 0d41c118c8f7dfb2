import QuantumJobs.Text.Blank

/-!
# Address — numeric addresses of hosts

An address of version 4 is a number of 32 bits; it is read from up to four numerals, the last of
which fills what the others leave.  An address of version 6 is eight pieces of 16 bits; a double
colon stands for a run of zeros.
-/

namespace QuantumJobs

/-! ## Version 4 -/

/-- An address of version 4, its first byte in the highest place. -/
structure Address4 where
  value : Nat
  deriving DecidableEq, Repr

namespace Address4

/-- A numeral: hexadecimal behind `0x`, octal behind `0`, else decimal.  A mark of the base alone is
zero. -/
def numeral? : List Char → Option Nat
  | ['0'] => some 0
  | '0' :: x :: digits =>
      if x = 'x' || x = 'X' then if digits.isEmpty then some 0 else Text.numeral? 16 digits
      else Text.numeral? 8 (x :: digits)
  | digits => Text.numeral? 10 digits

/-- The parts between points, without an empty one at the end. -/
def parts (cs : List Char) : List (List Char) :=
  let all := cs.splitOn '.'
  if all.getLast? = some [] then all.dropLast else all

/-- Whether a host is meant as an address: its last part is a number, well formed or not. -/
def isMeant (cs : List Char) : Bool :=
  (parts cs).getLast?.any fun last =>
    (!last.isEmpty && last.all Char.isDigit) || (numeral? last).isSome

/-- The value of numbers of which each takes one byte, except that the last fills the rest. -/
def fill? : Nat → List Nat → Option Nat
  | _, [] => none
  | size, [n] => if n < size then some n else none
  | size, n :: rest =>
      let unit := size / 256
      if n < 256 then (fill? unit rest).map (n * unit + ·) else none

def ofChars? (cs : List Char) : Option Address4 := do
  let numbers ← (parts cs).mapM numeral?
  if numbers.length ≤ 4 then (fill? 4294967296 numbers).map Address4.mk else none

/-- Four numbers with points between them. -/
def text (a : Address4) : String :=
  ".".intercalate ([16777216, 65536, 256, 1].map fun unit => toString (a.value / unit % 256))

end Address4

/-! ## Version 6 -/

/-- An address of version 6 by its pieces. -/
structure Address6 where
  pieces : List Nat
  deriving DecidableEq, Repr

namespace Address6

/-- A piece: one to four hexadecimal digits. -/
def piece? (cs : List Char) : Option Nat :=
  if cs.length ≤ 4 then Text.numeral? 16 cs else none

/-- A byte in decimal without leading zeros. -/
def byte? (cs : List Char) : Option Nat :=
  if 1 < cs.length && cs.head? = some '0' then none
  else (Text.numeral? 10 cs).filter (· < 256)

/-- Two pieces as four bytes with points between them. -/
def tail? (cs : List Char) : Option (List Nat) :=
  match (cs.splitOn '.').mapM byte? with
  | some [a, b, c, d] => some [a * 256 + b, c * 256 + d]
  | _ => none

/-- Pieces with colons between them, the last two of which may be four bytes. -/
def pieces? : List (List Char) → Option (List Nat)
  | [] => some []
  | [last] => if last.contains '.' then tail? last else (piece? last).map fun n => [n]
  | first :: rest => do
      let n ← piece? first
      let others ← pieces? rest
      return n :: others

/-- What stands before and after the first double colon. -/
def splitDouble? : List Char → Option (List Char × List Char)
  | [] => none
  | ':' :: ':' :: rest => some ([], rest)
  | c :: rest => (splitDouble? rest).map fun (before, behind) => (c :: before, behind)

def split (cs : List Char) : List (List Char) := if cs.isEmpty then [] else cs.splitOn ':'

def ofChars? (cs : List Char) : Option Address6 :=
  match splitDouble? cs with
  | none => ((pieces? (split cs)).filter (·.length = 8)).map Address6.mk
  | some (before, behind) => do
      let first ← (split before).mapM piece?
      let last ← pieces? (split behind)
      let given := first.length + last.length
      if given < 8 then some ⟨first ++ List.replicate (8 - given) 0 ++ last⟩ else none

/-- The number of zeros at the start. -/
def leadingZeros (ns : List Nat) : Nat := (ns.takeWhile (· = 0)).length

/-- The place and the length of the first longest run of zeros; `place` is that of the first
piece. -/
def longestZeros : Nat → List Nat → Nat × Nat
  | place, [] => (place, 0)
  | place, n :: rest =>
      let later := longestZeros (place + 1) rest
      let here := leadingZeros (n :: rest)
      if here < later.2 then later else (place, here)

def joined (ns : List Nat) : String :=
  ":".intercalate (ns.map fun n => String.ofList (Nat.toDigits 16 n))

/-- Pieces with colons between them; a double colon stands for the first longest run of two zeros or
more. -/
def text (a : Address6) : String :=
  let (place, size) := longestZeros 0 a.pieces
  if size < 2 then joined a.pieces
  else joined (a.pieces.take place) ++ "::" ++ joined (a.pieces.drop (place + size))

end Address6
end QuantumJobs

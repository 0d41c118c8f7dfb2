import QuantumJobs.Text.Blank

/-!
# Instant — points in time and their RFC 3339 form

An instant is a day, a second of that day and a fraction, in UTC.  A leap second is the second
before it with a fraction of at least one whole second.  Instants are written with a `Z` and as many
fraction digits, in steps of three, as they need; the reader is more generous and also takes a blank
for the `T`, white space between the fields, an offset without a colon, and any number of digits.
-/

namespace QuantumJobs

/-- An instant in UTC. -/
structure Instant where
  /-- Days since 1970-01-01. -/
  day : Int
  /-- Seconds since midnight, below 86400. -/
  second : Nat
  /-- Nanoseconds since that second; from 10⁹ on they lie in a leap second. -/
  nano : Nat
  deriving DecidableEq, Repr, Inhabited

namespace Instant

/-! ## The calendar -/

/-- The days from 1970-01-01 to a date of the Gregorian calendar. -/
def dayOf (year : Int) (month day : Nat) : Int :=
  let y := if month ≤ 2 then year - 1 else year
  let era := y / 400
  let yearOfEra := y - era * 400
  let shifted : Nat := if month ≤ 2 then month + 9 else month - 3
  let dayOfYear : Nat := (153 * shifted + 2) / 5 + day - 1
  era * 146097 + yearOfEra * 365 + yearOfEra / 4 - yearOfEra / 100 + dayOfYear - 719468

/-- The year, month and day of the month of a day. -/
def dateOf (day : Int) : Int × Nat × Nat :=
  let z := day + 719468
  let era := z / 146097
  let doe := (z - era * 146097).toNat
  let yearOfEra := (doe - doe / 1460 + doe / 36524 - doe / 146096) / 365
  let dayOfYear := doe - (365 * yearOfEra + yearOfEra / 4 - yearOfEra / 100)
  let shifted := (5 * dayOfYear + 2) / 153
  let d := dayOfYear - (153 * shifted + 2) / 5 + 1
  let m := if shifted < 10 then shifted + 3 else shifted - 9
  ((yearOfEra : Int) + era * 400 + (if m ≤ 2 then 1 else 0), m, d)

def isLeapYear (year : Int) : Bool :=
  year % 4 = 0 && (year % 100 ≠ 0 || year % 400 = 0)

def daysInMonth (year : Int) (month : Nat) : Nat :=
  if month = 2 then (if isLeapYear year then 29 else 28)
  else if month = 4 || month = 6 || month = 9 || month = 11 then 30
  else 31

/-- The first and the last year that an instant can lie in. -/
def yearRange : Int × Int := (-262143, 262142)

def inRange (day : Int) : Bool :=
  dayOf yearRange.1 1 1 ≤ day && day ≤ dayOf yearRange.2 12 31

/-! ## Writing -/

/-- Four digits, or a sign and at least four digits for a year outside 0 to 9999. -/
def yearText (year : Int) : String :=
  if 0 ≤ year && year ≤ 9999 then Text.zeroPadded 4 year.toNat
  else (if year < 0 then "-" else "+") ++ Text.zeroPadded 4 year.natAbs

def dateText (t : Instant) : String :=
  let (y, m, d) := dateOf t.day
  yearText y ++ "-" ++ Text.zeroPadded 2 m ++ "-" ++ Text.zeroPadded 2 d

/-- Hours, minutes and seconds; a leap second is written as second sixty. -/
def clockText (t : Instant) : String :=
  let s := t.second % 60 + t.nano / 1000000000
  Text.zeroPadded 2 (t.second / 3600) ++ ":" ++ Text.zeroPadded 2 (t.second / 60 % 60) ++ ":"
    ++ Text.zeroPadded 2 s

/-- No fraction, or one of three, six or nine digits. -/
def fractionText (t : Instant) : String :=
  let n := t.nano % 1000000000
  if n = 0 then ""
  else if n % 1000000 = 0 then "." ++ Text.zeroPadded 3 (n / 1000000)
  else if n % 1000 = 0 then "." ++ Text.zeroPadded 6 (n / 1000)
  else "." ++ Text.zeroPadded 9 n

/-- The RFC 3339 form in UTC. -/
def toText (t : Instant) : String :=
  t.dateText ++ "T" ++ t.clockText ++ t.fractionText ++ "Z"

/-! ## Reading -/

/-- Why a text is no instant. -/
inductive Fault
  | tooShort
  | invalid
  | outOfRange
  | trailing
  | impossible
  deriving DecidableEq, Repr

def Fault.message : Fault → String
  | .tooShort => "premature end of input"
  | .invalid => "input contains invalid characters"
  | .outOfRange => "input is out of range"
  | .trailing => "trailing input"
  | .impossible => "no possible date and time matching input"

abbrev Reading := Except Fault

def isDigit (c : Char) : Bool := (Text.digit? c).isSome

def skipBlank (cs : List Char) : List Char := cs.dropWhile Text.isBlank

/-- A number of one up to `width` digits. -/
def readNumber (width : Nat) (cs : List Char) : Reading (Nat × List Char) :=
  match cs with
  | [] => .error .tooShort
  | _ =>
      let digits := (cs.take width).takeWhile isDigit
      match Text.numeral? 10 digits with
      | some n => .ok (n, cs.drop digits.length)
      | none => .error .invalid

/-- A number of up to two digits that must lie in a range, after white space. -/
def readWithin (low high : Nat) (cs : List Char) : Reading (Nat × List Char) := do
  let (n, cs) ← readNumber 2 (skipBlank cs)
  if low ≤ n ∧ n ≤ high then .ok (n, cs) else .error .outOfRange

/-- A separator, after white space. -/
def readMark (mark : Char) (cs : List Char) : Reading (List Char) :=
  match skipBlank cs with
  | [] => .error .tooShort
  | c :: rest => if c = mark then .ok rest else .error .invalid

/-- Years from here on do not fit a word of thirty-two bits. -/
def yearLimit : Nat := 2147483648

/-- A year of up to four digits, or one with a sign and any number of digits. -/
def readYear (cs : List Char) : Reading (Int × List Char) :=
  match skipBlank cs with
  | '-' :: cs => do
      let (n, cs) ← readNumber cs.length cs
      if n ≤ yearLimit then .ok (-(n : Int), cs) else .error .outOfRange
  | '+' :: cs => do
      let (n, cs) ← readNumber cs.length cs
      if n < yearLimit then .ok ((n : Int), cs) else .error .outOfRange
  | cs => (readNumber 4 cs).map fun (n, rest) => ((n : Int), rest)

/-- The fraction of a second in nanoseconds, if a point announces one; digits beyond the ninth are
dropped. -/
def readFraction : List Char → Reading (Nat × List Char)
  | '.' :: cs => do
      let (n, rest) ← readNumber 9 cs
      let taken := cs.length - rest.length
      .ok (n * Nat.pow 10 (9 - taken), rest.dropWhile isDigit)
  | cs => .ok (0, cs)

/-- Two digits of an offset, the first of them at most `limit`. -/
def readPair (limit : Nat) (cs : List Char) : Reading (Nat × List Char) :=
  match cs with
  | a :: b :: rest =>
      match Text.digit? a, Text.digit? b with
      | some x, some y => if x ≤ limit then .ok (x * 10 + y, rest) else .error .outOfRange
      | _, _ => .error .invalid
  | _ => if Text.utf8Length cs < 2 then .error .tooShort else .error .invalid

/-- The seconds by which local time is ahead of UTC. -/
def readOffset (cs : List Char) : Reading (Int × List Char) :=
  let hoursAndMinutes (sign : Int) (cs : List Char) : Reading (Int × List Char) := do
    let (hours, cs) ← readPair 9 cs
    let (minutes, cs) ← readPair 5 (cs.dropWhile fun c => c = ':' || Text.isBlank c)
    .ok (sign * ((hours * 3600 + minutes * 60 : Nat) : Int), cs)
  match cs with
  | [] => .error .tooShort
  | c :: rest =>
      if (cs.take 3).map Char.toUpper = ['U', 'T', 'C'] then .ok (0, cs.drop 3)
      else if c = 'Z' ∨ c = 'z' then .ok (0, rest)
      else if c = '+' then hoursAndMinutes 1 rest
      else if c = '-' ∨ c = '−' then hoursAndMinutes (-1) rest
      else .error .invalid

/-- The instant at a local date and time, `offset` seconds ahead of UTC. -/
def ofLocal (year : Int) (month day second nano : Nat) (offset : Int) : Reading Instant :=
  if year < yearRange.1 ∨ yearRange.2 < year ∨ daysInMonth year month < day then
    .error .outOfRange
  else if 86400 ≤ offset.natAbs then .error .outOfRange
  else
    let s : Int := (second : Int) - offset
    let d := dayOf year month day + s / 86400
    if inRange d then .ok ⟨d, (s % 86400).toNat, nano⟩ else .error .impossible

def ofChars (cs : List Char) : Reading Instant := do
  let (year, cs) ← readYear cs
  let cs ← readMark '-' cs
  let (month, cs) ← readWithin 1 12 cs
  let cs ← readMark '-' cs
  let (day, cs) ← readWithin 1 31 cs
  let cs ← match cs with
    | [] => Except.error Fault.tooShort
    | c :: rest =>
        if c = 't' ∨ c = 'T' ∨ c = ' ' then Except.ok rest else Except.error Fault.invalid
  let (hour, cs) ← readWithin 0 23 cs
  let cs ← readMark ':' cs
  let (minute, cs) ← readWithin 0 59 cs
  let cs ← readMark ':' cs
  let (second, cs) ← readWithin 0 60 cs
  let (nano, cs) ← readFraction cs
  let (offset, cs) ← readOffset (skipBlank cs)
  if (skipBlank cs).isEmpty then
    let leap := second / 60
    ofLocal year month day (hour * 3600 + minute * 60 + second - leap) (nano + leap * 1000000000)
      offset
  else .error .trailing

def ofText (s : String) : Reading Instant :=
  ofChars s.toList

end Instant
end QuantumJobs

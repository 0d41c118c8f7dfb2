import QuantumJobs.Text.Blank

/-!
# Punycode — labels beyond ASCII in letters and digits

The ASCII characters of a label are written first.  The others follow in the order of their code
points: each is a number that says how far it is from the one before it, counted over code points
and places in the label.  A number is written in digits whose weights adapt to the numbers before
it.
-/

namespace QuantumJobs
namespace Punycode

def base : Nat := 36

def initialBias : Nat := 72

def initialPoint : Nat := 0x80

/-- The least value with which the digit of weight `k` does not end its number. -/
def threshold (bias k : Nat) : Nat := min 26 (max 1 (k - bias))

theorem threshold_pos (bias k : Nat) : 0 < threshold bias k := by
  unfold threshold
  omega

/-- How far the weights move for a number that has been scaled down. -/
def spread (k delta : Nat) : Nat :=
  if 455 < delta then spread (k + base) (delta / 35) else k + base * delta / (delta + 38)
  termination_by delta

/-- The bias after a number, where `count` characters are known with the new one. -/
def adapt (delta count : Nat) (isFirst : Bool) : Nat :=
  let scaled := if isFirst then delta / 700 else delta / 2
  spread 0 (scaled + scaled / count)

/-! ## Writing -/

def digitChar (d : Nat) : Char := Char.ofNat (if d < 26 then 97 + d else 22 + d)

/-- The digits of a number, from weight `k` on. -/
def writeNumber (bias k n : Nat) : List Char :=
  let t := threshold bias k
  if n < t then [digitChar n]
  else digitChar (t + (n - t) % (base - t)) :: writeNumber bias (k + base) ((n - t) / (base - t))
  termination_by n
  decreasing_by
    have := threshold_pos bias k
    exact Nat.lt_of_le_of_lt (Nat.div_le_self _ _) (by omega)

/-- What writing has come to. -/
structure Writer where
  /-- The least code point that is not yet written. -/
  point : Nat
  /-- The distance from the character that was written last. -/
  delta : Nat
  bias : Nat
  /-- How many characters are written. -/
  count : Nat
  digits : List Char

/-- Passes a character of the label while those of code point `point` are written. -/
def Writer.pass (basic point : Nat) (w : Writer) (n : Nat) : Writer :=
  if n < point then { w with delta := w.delta + 1 }
  else if n = point then
    { w with
      delta := 0
      bias := adapt w.delta (w.count + 1) (w.count = basic)
      count := w.count + 1
      digits := w.digits ++ writeNumber w.bias base w.delta }
  else w

/-- Writes all characters of a code point. -/
def Writer.writePoint (basic : Nat) (label : List Nat) (w : Writer) (point : Nat) : Writer :=
  let start := { w with delta := w.delta + (point - w.point) * (w.count + 1) }
  let done := label.foldl (Writer.pass basic point) start
  { done with point := point + 1, delta := done.delta + 1 }

def encode (label : List Char) : List Char :=
  let basic := label.filter fun c => c.toNat < initialPoint
  let points := label.map Char.toNat
  let others := ((points.filter (initialPoint ≤ ·)).mergeSort (· ≤ ·)).eraseDups
  let start : Writer := ⟨initialPoint, 0, initialBias, basic.length, []⟩
  basic ++ (if basic.isEmpty then [] else ['-'])
    ++ (others.foldl (Writer.writePoint basic.length points) start).digits

/-! ## Reading -/

def digit? (c : Char) : Option Nat :=
  if 'a' ≤ c && c ≤ 'z' then some (c.toNat - 97)
  else if '0' ≤ c && c ≤ '9' then some (c.toNat - 22)
  else none

/-- Reads a number from the digit of weight `k` on, which counts `unit`. -/
def readNumber (bias : Nat) : Nat → Nat → List Char → Option (Nat × List Char)
  | _, _, [] => none
  | k, unit, c :: rest => do
      let d ← digit? c
      let t := threshold bias k
      if d < t then some (d * unit, rest)
      else do
        let (more, rest) ← readNumber bias (k + base) (unit * (base - t)) rest
        return (d * unit + more, rest)

theorem readNumber_length {bias : Nat} :
    ∀ {k unit : Nat} {cs : List Char} {n : Nat} {rest : List Char},
      readNumber bias k unit cs = some (n, rest) → rest.length < cs.length
  | _, _, [], _, _, h => by simp [readNumber] at h
  | k, unit, c :: cs, n, rest, h => by
      simp only [readNumber, Option.bind_eq_bind, Option.bind_eq_some_iff] at h
      obtain ⟨d, _, h⟩ := h
      split at h
      · obtain ⟨_, rfl⟩ := by simpa using h
        simp
      · obtain ⟨⟨more, rest'⟩, hmore, heq⟩ := Option.bind_eq_some_iff.1 h
        obtain ⟨_, rfl⟩ := by simpa using heq
        exact Nat.lt_succ_of_lt (readNumber_length hmore)

/-- Puts in the characters that digits tell of; `place` is behind the one that was put in last. -/
def insertAll (point place bias : Nat) (label : List Char) (digits : List Char) :
    Option (List Char) :=
  if digits.isEmpty then some label
  else
    match _h : readNumber bias base 1 digits with
    | none => none
    | some (delta, rest) =>
        let count := label.length + 1
        let reached := place + delta
        let n := point + reached / count
        let place' := reached % count
        if n.isValidChar then
          insertAll n (place' + 1) (adapt delta count (place = 0))
            (label.take place' ++ Char.ofNat n :: label.drop place') rest
        else none
  termination_by digits.length
  decreasing_by exact readNumber_length (by assumption)

/-- The label that letters and digits stand for. -/
def decode? (cs : List Char) : Option (List Char) :=
  let (basic, digits) := match Text.splitLast? '-' cs with
    | some ([], _) => ([], cs)
    | some parts => parts
    | none => ([], cs)
  if basic.all (·.toNat < initialPoint) then
    insertAll initialPoint 0 initialBias basic digits
  else none

end Punycode
end QuantumJobs

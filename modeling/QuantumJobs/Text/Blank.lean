/-!
# Blank — white space, trimming and splitting

White space here is the Unicode property `White_Space`.  Text is trimmed and split as lists of
characters; the functions on `String` wrap those on lists.
-/

namespace QuantumJobs
namespace Text

/-- The characters with the Unicode property `White_Space`. -/
def isBlank (c : Char) : Bool :=
  let n := c.toNat
  (0x09 ≤ n && n ≤ 0x0D) || n = 0x20 || n = 0x85 || n = 0xA0 || n = 0x1680
    || (0x2000 ≤ n && n ≤ 0x200A) || n = 0x2028 || n = 0x2029 || n = 0x202F || n = 0x205F
    || n = 0x3000

/-! ## Trimming -/

def dropEndWhile (p : Char → Bool) (cs : List Char) : List Char :=
  (cs.reverse.dropWhile p).reverse

def trimChars (cs : List Char) : List Char :=
  dropEndWhile isBlank (cs.dropWhile isBlank)

/-- The text without the given character at its end, however often it stands there. -/
def trimEndOf (c : Char) (s : String) : String :=
  String.ofList (dropEndWhile (· = c) s.toList)

/-- The text without the given character at its start, however often it stands there. -/
def trimStartOf (c : Char) (s : String) : String :=
  String.ofList (s.toList.dropWhile (· = c))

/-! ## Splitting and searching -/

/-- What stands before and after the first occurrence of a character. -/
def splitFirst? (c : Char) : List Char → Option (List Char × List Char)
  | [] => none
  | x :: rest =>
      if x = c then some ([], rest)
      else (splitFirst? c rest).map fun (before, behind) => (x :: before, behind)

/-- What stands before and after the last occurrence of a character. -/
def splitLast? (c : Char) (cs : List Char) : Option (List Char × List Char) :=
  (splitFirst? c cs.reverse).map fun (behind, before) => (before.reverse, behind.reverse)

/-- Whether the first list occurs as a block inside the second. -/
def occursIn (needle : List Char) : List Char → Bool
  | [] => needle.isEmpty
  | c :: rest => needle.isPrefixOf (c :: rest) || occursIn needle rest

/-- Lower case for the letters of ASCII; every other character stays. -/
def asciiLower (s : String) : String :=
  String.ofList (s.toList.map Char.toLower)

theorem splitFirst?_eq_some {c : Char} :
    ∀ {cs before behind : List Char}, splitFirst? c cs = some (before, behind) →
      cs = before ++ c :: behind ∧ c ∉ before
  | [], _, _, h => by simp [splitFirst?] at h
  | x :: rest, before, behind, h => by
      unfold splitFirst? at h
      split at h
      · rename_i hx
        obtain ⟨rfl, rfl⟩ := by simpa using h
        simp [hx]
      · rename_i hx
        obtain ⟨⟨b, e⟩, hb, hpair⟩ := Option.map_eq_some_iff.1 h
        obtain ⟨rfl, rfl⟩ := by simpa using hpair
        obtain ⟨hrest, hnot⟩ := splitFirst?_eq_some hb
        exact ⟨by simp [hrest], by simp [hnot, Ne.symm hx]⟩

/-! ## Columns -/

/-- The number of bytes that characters take. -/
def utf8Length (cs : List Char) : Nat := cs.foldr (fun c n => c.utf8Size + n) 0

/-- Pads on the left with spaces up to a width; a wider text stays. -/
def padLeft (width : Nat) (s : String) : String :=
  String.ofList (List.replicate (width - s.length) ' ') ++ s

/-- A number in decimal with leading zeros up to a width. -/
def zeroPadded (width : Nat) (n : Nat) : String :=
  let digits := toString n
  String.ofList (List.replicate (width - digits.length) '0') ++ digits

/-! ## Numerals -/

def digit? (c : Char) : Option Nat :=
  if '0' ≤ c && c ≤ '9' then some (c.toNat - 48) else none

/-- The value of a digit in a base up to sixteen, letters in either case. -/
def digitIn? (base : Nat) (c : Char) : Option Nat :=
  let value :=
    if '0' ≤ c && c ≤ '9' then some (c.toNat - 48)
    else if 'a' ≤ c && c ≤ 'f' then some (c.toNat - 87)
    else if 'A' ≤ c && c ≤ 'F' then some (c.toNat - 55)
    else none
  value.filter (· < base)

/-- Reads a numeral of one or more digits in a base up to sixteen. -/
def numeral? (base : Nat) (cs : List Char) : Option Nat :=
  if cs.isEmpty then none
  else cs.foldlM (fun n c => (digitIn? base c).map (base * n + ·)) 0

/-- Reads a decimal number, with or without a plus sign. -/
def natural? : List Char → Option Nat
  | '+' :: digits => numeral? 10 digits
  | digits => numeral? 10 digits

end Text
end QuantumJobs

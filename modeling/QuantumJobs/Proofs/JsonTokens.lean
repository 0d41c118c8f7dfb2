import Mathlib.Data.List.TakeWhile
import QuantumJobs.Json.Printer
import QuantumJobs.Json.Reader
import QuantumJobs.Proofs.Numerals

/-!
# JsonTokens — strings and numbers of JSON text, written and read

A text is read from the front.  A string is read back from its own text whatever follows it, for its
closing quote ends it.  A number has no such end: it is read as far as it goes, so what follows it
must not look like more of it.  The integers that words of sixty-four bits hold are read back as
integers.
-/

namespace QuantumJobs
namespace Json

/-- The symbols that a text consists of. -/
def symbols (s : String) : List Symbol := s.toList.map some

@[simp]
theorem symbols_append (s t : String) : symbols (s ++ t) = symbols s ++ symbols t := by
  simp [symbols]

/-! ## Strings -/

theorem symbols_hexPair (n : Nat) :
    symbols (hexPair n) = [some (Nat.digitChar (n / 16)), some (Nat.digitChar (n % 16))] := by
  simp [symbols, hexPair]

/-- The escape of a control character is read back after its backslash. -/
theorem readEscape_control {n : Nat} (control : n < 32) (rest : List Symbol) :
    readEscape (symbols ("u00" ++ hexPair n) ++ rest) = .ok (Char.ofNat n, rest) := by
  have numeral : ∀ m < 32, Text.numeral? 16 ['0', '0', Nat.digitChar (m / 16),
      Nat.digitChar (m % 16)] = some m := by
    decide
  have low : isLowSurrogate n = false := by
    simp only [isLowSurrogate, Bool.and_eq_false_iff, decide_eq_false_iff_not]
    omega
  have high : isHighSurrogate n = false := by
    simp only [isHighSurrogate, Bool.and_eq_false_iff, decide_eq_false_iff_not]
    omega
  have start : symbols "u00" = [some 'u', some '0', some '0'] := rfl
  rw [symbols_append, symbols_hexPair, start]
  simp [readEscape, readUnicode, readHex4, numeral n control, low, high, Bind.bind, Except.bind]

/-- One round of the reader takes what stands for one character. -/
theorem readSymbols_escapedChar (c : Char) (fuel : Nat) (acc rest : List Symbol) :
    readSymbols (fuel + 1) acc (symbols (escapedChar c) ++ rest)
      = readSymbols fuel (some c :: acc) rest := by
  by_cases special : c ∈ ['"', '\\', '\x08', '\x0c', '\n', '\r', '\t']
  · simp only [List.mem_cons, List.not_mem_nil, or_false] at special
    rcases special with rfl | rfl | rfl | rfl | rfl | rfl | rfl <;> rfl
  · simp only [List.mem_cons, List.not_mem_nil, or_false, not_or] at special
    obtain ⟨quote, backslash, b, f, n, r, t⟩ := special
    by_cases control : c.toNat < 0x20
    · have escaped : escapedChar c = "\\" ++ ("u00" ++ hexPair c.toNat) := by
        simp [escapedChar, quote, backslash, b, f, n, r, t, control, ← String.append_assoc]
      have read := readEscape_control control rest
      have start : symbols "\\" = [some '\\'] := rfl
      rw [escaped, symbols_append, start]
      simp [readSymbols, read, Bind.bind, Except.bind, -symbols_append]
    · have plain : escapedChar c = c.toString := by
        simp [escapedChar, quote, backslash, b, f, n, r, t, control]
      have single : symbols c.toString = [some c] := by simp [symbols]
      rw [plain, single]
      simp [readSymbols, quote, backslash, control]

theorem readSymbols_escaped :
    ∀ (cs : List Char) (fuel : Nat) (acc rest : List Symbol), cs.length < fuel →
      readSymbols fuel acc (symbols (String.join (cs.map escapedChar)) ++ some '"' :: rest)
        = .ok ((cs.map some).reverse ++ acc, rest) := by
  intro cs
  induction cs with
  | nil =>
      intro fuel acc rest enough
      obtain ⟨fuel, rfl⟩ := Nat.exists_eq_succ_of_ne_zero (Nat.ne_of_gt enough)
      rfl
  | cons c cs ih =>
      intro fuel acc rest enough
      obtain ⟨fuel, rfl⟩ := Nat.exists_eq_succ_of_ne_zero (Nat.ne_of_gt (Nat.zero_lt_of_lt enough))
      have enough' : cs.length < fuel := by simpa using enough
      rw [List.map_cons, String.join_cons, symbols_append, List.append_assoc,
        readSymbols_escapedChar, ih _ _ _ enough']
      simp

/-- What stands for a string after its opening quote. -/
def stringTail (s : String) : List Symbol :=
  symbols (String.join (s.toList.map escapedChar)) ++ [some '"']

theorem symbols_stringText (s : String) : symbols (stringText s) = some '"' :: stringTail s := by
  simp [stringText, stringTail, symbols]

theorem length_le_symbols_escaped (cs : List Char) :
    cs.length ≤ (symbols (String.join (cs.map escapedChar))).length := by
  induction cs with
  | nil => exact Nat.zero_le _
  | cons c cs ih =>
      have first : 0 < (symbols (escapedChar c)).length := by
        unfold escapedChar
        repeat' split
        all_goals simp [symbols]
      rw [List.map_cons, String.join_cons, symbols_append, List.length_append, List.length_cons]
      omega

/-- A string is read back after its opening quote. -/
theorem readString_stringTail (s : String) (rest : List Symbol) :
    readString (stringTail s ++ rest) = .ok (s, rest) := by
  -- The reader may make a round for each symbol, and every character has at least one.
  have enough : s.toList.length < (stringTail s ++ rest).length + 1 := by
    have short := length_le_symbols_escaped s.toList
    simp only [stringTail, List.length_append]
    omega
  have read := readSymbols_escaped s.toList _ [] rest enough
  have all : (s.toList.map some).mapM id = some s.toList := by
    induction s.toList with
    | nil => rfl
    | cons c cs ih => simp_all
  unfold readString
  have tail : stringTail s ++ rest
      = symbols (String.join (s.toList.map escapedChar)) ++ some '"' :: rest := by
    simp [stringTail]
  rw [tail] at read ⊢
  simp only [read, Bind.bind, Except.bind, List.append_nil, List.reverse_reverse, all,
    String.ofList_toList]

/-! ## Numbers -/

/-- What follows a number in a text: nothing, or a symbol that no number goes on with. -/
def Delimited (rest : List Symbol) : Prop :=
  ∀ c ∈ rest.head?, isDigit c = false ∧ c ≠ some '.' ∧ c ≠ some 'e' ∧ c ≠ some 'E'

variable {cs rest left : List Symbol}

theorem takeWhile_delimited (delimited : Delimited rest) :
    (cs ++ rest).takeWhile isDigit = cs.takeWhile isDigit ∧
      (cs ++ rest).dropWhile isDigit = cs.dropWhile isDigit ++ rest := by
  induction cs with
  | nil =>
      cases rest with
      | nil => exact ⟨rfl, rfl⟩
      | cons c rest =>
          have notDigit := (delimited c rfl).1
          simp [notDigit]
  | cons c cs ih =>
      cases digit : isDigit c with
      | false => simp [digit]
      | true => simp [digit, ih]

theorem readDigits_append (delimited : Delimited rest) {ds : List Nat}
    (read : readDigits cs = .ok (ds, left)) : readDigits (cs ++ rest) = .ok (ds, left ++ rest) := by
  obtain ⟨taken, dropped⟩ := @takeWhile_delimited cs rest delimited
  cases cs with
  | nil => cases read
  | cons c cs =>
      unfold readDigits at read ⊢
      cases digit : isDigit c with
      | false => simp [digit] at read
      | true =>
          simp only [digit, if_true, List.cons_append] at read taken dropped ⊢
          rw [taken, dropped]
          cases read
          rfl

theorem readWhole_append (delimited : Delimited rest) {ds : List Nat}
    (read : readWhole cs = .ok (ds, left)) : readWhole (cs ++ rest) = .ok (ds, left ++ rest) := by
  unfold readWhole at read ⊢
  cases digits : readDigits cs with
  | error e =>
      rw [digits] at read
      cases read
  | ok found =>
      obtain ⟨ds', left'⟩ := found
      rw [digits] at read
      rw [readDigits_append delimited digits]
      simp only [Bind.bind, Except.bind] at read ⊢
      split at read
      · cases read
      · cases read
        rfl

theorem readFraction_append (delimited : Delimited rest) {fraction : Option (List Nat)}
    (read : readFraction cs = .ok (fraction, left)) :
    readFraction (cs ++ rest) = .ok (fraction, left ++ rest) := by
  cases cs with
  | nil =>
      cases read
      cases rest with
      | nil => rfl
      | cons c rest =>
          have noPoint := (delimited c rfl).2.1
          unfold readFraction
          split
          · rename_i same
            cases same
            exact absurd rfl noPoint
          · rfl
  | cons c cs =>
      by_cases point : c = some '.'
      · subst point
        cases digits : readDigits cs with
        | error e => simp [readFraction, digits, Except.map] at read
        | ok found =>
            simp only [readFraction, digits, Except.map] at read
            cases read
            simp [readFraction, readDigits_append delimited digits, Except.map]
      · have noPoint : ∀ ds, readFraction (c :: ds) = .ok (none, c :: ds) := by
          intro ds
          unfold readFraction
          split
          · rename_i same
            cases same
            exact absurd rfl point
          · rfl
        rw [noPoint] at read
        cases read
        exact noPoint _

/-- The sign that an exponent may start with, and what follows it. -/
def takeSign : List Symbol → Bool × List Symbol
  | some '+' :: cs => (false, cs)
  | some '-' :: cs => (true, cs)
  | cs => (false, cs)

theorem takeSign_append (nonempty : cs ≠ []) :
    takeSign (cs ++ rest) = ((takeSign cs).1, (takeSign cs).2 ++ rest) := by
  cases cs with
  | nil => exact absurd rfl nonempty
  | cons c cs =>
      by_cases plus : c = some '+'
      · subst plus
        rfl
      · by_cases minus : c = some '-'
        · subst minus
          rfl
        · simp [takeSign, plus, minus]

theorem readExponent_letter {c : Symbol} (letter : c = some 'e' ∨ c = some 'E') :
    readExponent (c :: cs) = (readDigits (takeSign cs).2).map fun (ds, left) =>
      (some (if (takeSign cs).1 then -(ofDigits ds : Int) else ofDigits ds), left) := by
  simp only [readExponent, letter, if_true]
  rfl

theorem readExponent_append (delimited : Delimited rest) {e : Option Int}
    (read : readExponent cs = .ok (e, left)) :
    readExponent (cs ++ rest) = .ok (e, left ++ rest) := by
  cases cs with
  | nil =>
      cases read
      cases rest with
      | nil => rfl
      | cons c rest =>
          obtain ⟨_, _, small, capital⟩ := delimited c rfl
          simp [readExponent, small, capital]
  | cons c cs =>
      by_cases letter : c = some 'e' ∨ c = some 'E'
      · rw [readExponent_letter letter] at read
        rw [List.cons_append, readExponent_letter letter]
        cases digits : readDigits (takeSign cs).2 with
        | error _ => simp [digits, Except.map] at read
        | ok found =>
            have nonempty : cs ≠ [] := by
              rintro rfl
              cases digits
            rw [digits] at read
            cases read
            rw [takeSign_append nonempty, readDigits_append delimited digits]
            rfl
      · simp only [readExponent, letter, if_false, List.cons_append] at read ⊢
        cases read
        rfl

/-- What is read as a number at the end of a text is read in front of a delimiter as well. -/
theorem readNumber_append (delimited : Delimited rest) {negative : Bool} {v : Json}
    (read : readNumber negative cs = .ok (v, left)) :
    readNumber negative (cs ++ rest) = .ok (v, left ++ rest) := by
  unfold readNumber at read ⊢
  cases whole : readWhole cs with
  | error _ => simp [whole, Bind.bind, Except.bind] at read
  | ok first =>
      rw [whole] at read
      rw [readWhole_append delimited whole]
      simp only [Bind.bind, Except.bind] at read ⊢
      cases fraction : readFraction first.2 with
      | error _ => simp [fraction] at read
      | ok second =>
          rw [fraction] at read
          rw [readFraction_append delimited fraction]
          simp only at read ⊢
          cases exponent : readExponent second.2 with
          | error _ => simp [exponent] at read
          | ok third =>
              rw [exponent] at read
              rw [readExponent_append delimited exponent]
              simp only at read ⊢
              -- The value is made of the three parts, whatever follows them.
              cases value : floatOfParts? first.1 (second.1.getD []) (third.1.getD 0) with
              | none | some _ =>
                  split at read
                  · split at read <;> simp_all
                  · simp_all

/-! ## Integers -/

theorem digit?_of_isDigit {c : Char} (digit : c.isDigit = true) :
    Text.digit? c = some (c.toNat - '0'.toNat) := by
  have isSome : (Text.digit? c).isSome = true := by rw [Text.digit?_isSome, digit]
  unfold Text.digit? at isSome ⊢
  split at isSome
  · rename_i range
    rw [if_pos range]
    rfl
  · cases isSome

theorem ofDigits_digitValues :
    ∀ (cs : List Char) (n : Nat), (∀ c ∈ cs, c.isDigit = true) →
      (digitValues (cs.map some)).foldl (fun n d => n * 10 + d) n = Nat.ofDigitChars 10 cs n := by
  intro cs
  induction cs with
  | nil =>
      intro n _
      simp [digitValues]
  | cons c cs ih =>
      intro n digits
      have first := digit?_of_isDigit (digits c List.mem_cons_self)
      have later := ih (n * 10 + (c.toNat - '0'.toNat)) fun d here =>
        digits d (List.mem_cons_of_mem c here)
      rw [Nat.ofDigitChars_cons, Nat.mul_comm 10 n, ← later]
      simp [digitValues, first]

/-- No number but zero is written with a zero in front. -/
theorem head?_toDigits {n : Nat} (positive : 0 < n) : (Nat.toDigits 10 n).head? ≠ some '0' := by
  induction n using Nat.strongRecOn with
  | ind n ih =>
      by_cases small : n < 10
      · rw [Nat.toDigits_of_lt_base small]
        intro zero
        have digit : Nat.digitChar n = '0' := by simpa using zero
        rw [Nat.digitChar_eq_zero] at digit
        omega
      · have more : 10 ≤ n := Nat.le_of_not_lt small
        obtain ⟨c, cs, front⟩ := List.exists_cons_of_ne_nil (Nat.toDigits_ne_nil (b := 10) (n := n / 10))
        have first := ih (n / 10) (by omega) (by omega)
        rw [front] at first
        rw [Nat.toDigits_of_base_le (by decide) more, front]
        exact first

theorem readDigits_digits {c : Char} {cs : List Char} (digits : ∀ d ∈ c :: cs, d.isDigit = true) :
    readDigits ((c :: cs).map some) = .ok (digitValues ((c :: cs).map some), []) := by
  have all : ∀ d ∈ (c :: cs).map some, isDigit d = true := by
    intro d here
    obtain ⟨d', member, rfl⟩ := List.mem_map.1 here
    show (Text.digit? d').isSome = true
    rw [Text.digit?_isSome]
    exact digits d' member
  have taken := List.takeWhile_eq_self_iff.2 all
  have dropped := List.dropWhile_eq_nil_iff.2 all
  have first : isDigit (some c) = true := all _ List.mem_cons_self
  rw [List.map_cons] at taken dropped ⊢
  unfold readDigits
  simp only [first, if_true, taken, dropped]

/-- The digits of a number are read back in front of a delimiter. -/
theorem readWhole_toDigits (n : Nat) :
    ∃ ds, readWhole ((Nat.toDigits 10 n).map some) = .ok (ds, []) ∧ ofDigits ds = n := by
  have digits : ∀ c ∈ Nat.toDigits 10 n, c.isDigit = true := fun c here =>
    Nat.isDigit_of_mem_toDigits (by decide) (by decide) here
  have value : ofDigits (digitValues ((Nat.toDigits 10 n).map some)) = n := by
    rw [ofDigits, ofDigits_digitValues _ 0 digits]
    exact Nat.ofDigitChars_ten_toDigits
  refine ⟨_, ?_, value⟩
  rcases Nat.eq_zero_or_pos n with rfl | positive
  · rfl
  -- A zero in front would have to stand alone, so it matters that there is none.
  · obtain ⟨c, cs, front⟩ := List.exists_cons_of_ne_nil (Nat.toDigits_ne_nil (b := 10) (n := n))
    have notZero : c ≠ '0' := by
      intro zero
      apply head?_toDigits positive
      rw [front, zero]
      rfl
    rw [front] at digits ⊢
    have digit := digits c List.mem_cons_self
    have first : c.toNat - '0'.toNat ≠ 0 := by
      have above : '0'.toNat ≤ c.toNat := by
        unfold Char.isDigit at digit
        simp only [Bool.and_eq_true, decide_eq_true_eq] at digit
        exact digit.1
      intro zero
      exact notZero (Char.toNat_inj.1 (Nat.le_antisymm (Nat.le_of_sub_eq_zero zero) above))
    have values : digitValues ((c :: cs).map some)
        = (c.toNat - '0'.toNat) :: digitValues (cs.map some) := by
      simp [digitValues, digit?_of_isDigit digit]
    unfold readWhole
    rw [readDigits_digits digits, values]
    simp only [Bind.bind, Except.bind]
    generalize c.toNat - '0'.toNat = d at first
    split
    · rename_i same
      exact absurd (List.cons.inj same).1 first
    · rfl

/-- Whether a word of sixty-four bits, with a sign or without one, holds a number. -/
def HeldByWord (n : Int) : Prop := minSigned ≤ n ∧ n ≤ maxUnsigned

/-- A number is read back from its own text. -/
def ReadBack (v : Json) : Prop := readValue 0 (symbols (scalarText v)) = .ok (v, [])

theorem readNumber_toDigits {negative : Bool} {n : Nat} {z : Int}
    (same : ∀ ds, ofDigits ds = n → intOfDigits? negative ds = some z) :
    readNumber negative ((Nat.toDigits 10 n).map some) = .ok (.int z, []) := by
  obtain ⟨ds, read, value⟩ := readWhole_toDigits n
  unfold readNumber
  rw [read]
  simp [Bind.bind, Except.bind, readFraction, readExponent, same ds value]

theorem readValue_digit {c : Symbol} (digit : isDigit c = true) (depth : Nat) :
    readValue depth (c :: cs) = readNumber false (c :: cs) := by
  have other : ∀ d : Char, isDigit (some d) = false → c ≠ some d := by
    rintro d notDigit rfl
    rw [digit] at notDigit
    cases notDigit
  unfold readValue
  simp [digit, other '"' rfl, other '[' rfl, other '\x7b' rfl, other 'n' rfl, other 't' rfl,
    other 'f' rfl, other '-' rfl]

theorem readValue_minus (depth : Nat) : readValue depth (some '-' :: cs) = readNumber true cs := by
  unfold readValue
  rfl

theorem readBack_int {n : Int} (held : HeldByWord n) : ReadBack (.int n) := by
  obtain ⟨low, high⟩ := held
  unfold minSigned at low
  unfold maxUnsigned at high
  show readValue 0 (symbols (toString n)) = _
  rw [Int.toString_eq_repr, Int.repr_eq_if]
  by_cases nonnegative : 0 ≤ n
  · have read : readNumber false ((Nat.toDigits 10 n.toNat).map some) = .ok (.int n, []) := by
      apply readNumber_toDigits
      intro ds value
      have small : n.toNat ≤ maxUnsigned := by
        unfold maxUnsigned
        omega
      have same : (n.toNat : Int) = n := Int.toNat_of_nonneg nonnegative
      simp [intOfDigits?, value, small, same]
    have digits : symbols n.toNat.repr = (Nat.toDigits 10 n.toNat).map some := by
      simp [symbols, Nat.toList_repr]
    obtain ⟨c, cs, front⟩ :=
      List.exists_cons_of_ne_nil (Nat.toDigits_ne_nil (b := 10) (n := n.toNat))
    have digit : isDigit (some c) = true := by
      show (Text.digit? c).isSome = true
      rw [Text.digit?_isSome]
      apply Nat.isDigit_of_mem_toDigits (b := 10) (n := n.toNat) (by decide) (by decide)
      rw [front]
      exact List.mem_cons_self
    rw [if_pos nonnegative, digits]
    rw [front, List.map_cons] at read ⊢
    rw [readValue_digit digit, read]
  · have read : readNumber true ((Nat.toDigits 10 (-n).toNat).map some) = .ok (.int n, []) := by
      apply readNumber_toDigits
      intro ds value
      have range : 0 < (-n).toNat ∧ (-n).toNat ≤ 9223372036854775808 := by omega
      have same : -((-n).toNat : Int) = n := by omega
      simp only [intOfDigits?, value, range, if_true, and_self, same]
    have digits : symbols ("-" ++ (-n).toNat.repr)
        = some '-' :: (Nat.toDigits 10 (-n).toNat).map some := by
      simp [symbols, Nat.toList_repr]
    rw [if_neg nonnegative, digits]
    exact read

end Json
end QuantumJobs

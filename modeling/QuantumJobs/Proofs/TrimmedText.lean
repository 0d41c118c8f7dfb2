import Mathlib.Data.List.Basic
import Mathlib.Data.List.TakeWhile
import QuantumJobs.Proofs.InstantText

/-!
# TrimmedText — texts and numbers without the white space around them

Trimming takes away white space at both ends and nothing else, so it gives back any text that was
padded, provided that the text has no white space at its own ends.  A decimal number has none.
-/

namespace QuantumJobs
namespace Text

variable {cs core : List Char}

/-! ## Trimming -/

/-- The second text is the first one without some white space at its ends. -/
def Pads (cs core : List Char) : Prop :=
  ∃ before after, cs = before ++ core ++ after ∧
    (∀ c ∈ before, isBlank c = true) ∧ ∀ c ∈ after, isBlank c = true

theorem pads_trimChars (cs : List Char) : Pads cs (trimChars cs) := by
  -- First the front is cut off, then the end of what is left.
  let rest := cs.dropWhile isBlank
  refine ⟨cs.takeWhile isBlank, (rest.reverse.takeWhile isBlank).reverse, ?_, ?_, ?_⟩
  · have ends : trimChars cs ++ (rest.reverse.takeWhile isBlank).reverse = rest := by
      show (rest.reverse.dropWhile isBlank).reverse ++ _ = rest
      rw [← List.reverse_append, List.takeWhile_append_dropWhile, List.reverse_reverse]
    rw [List.append_assoc, ends, List.takeWhile_append_dropWhile]
  · exact fun c here => List.mem_takeWhile_imp here
  · exact fun c here => List.mem_takeWhile_imp (List.mem_reverse.1 here)

theorem dropWhile_of_shown {c : Char} (shown : isBlank c = false) (cs : List Char) :
    (c :: cs).dropWhile isBlank = c :: cs :=
  List.dropWhile_cons_of_neg (by simp [shown])

/-- A text that begins and ends with other characters is what trimming leaves. -/
theorem trimChars_of_pads (pads : Pads cs core) (notEmpty : core ≠ [])
    (first : isBlank (core.head notEmpty) = false)
    (last : isBlank (core.getLast notEmpty) = false) : trimChars cs = core := by
  obtain ⟨before, after, rfl, blankBefore, blankAfter⟩ := pads
  -- What is cut off stops at the first and at the last character of the text.
  have front : (before ++ core ++ after).dropWhile isBlank = core ++ after := by
    rw [List.append_assoc, List.dropWhile_append_of_pos blankBefore]
    obtain ⟨c, rest, rfl⟩ := List.exists_cons_of_ne_nil notEmpty
    exact dropWhile_of_shown first _
  have behind : (core ++ after).reverse.dropWhile isBlank = core.reverse := by
    rw [List.reverse_append,
      List.dropWhile_append_of_pos fun c here => blankAfter c (List.mem_reverse.1 here)]
    obtain ⟨init, c, rfl⟩ := (List.eq_nil_or_concat' core).resolve_left notEmpty
    rw [List.reverse_append]
    exact dropWhile_of_shown (by simpa using last) _
  rw [trimChars, front, dropEndWhile, behind, List.reverse_reverse]

/-- Of white space alone nothing is left. -/
theorem trimChars_eq_nil : trimChars cs = [] ↔ ∀ c ∈ cs, isBlank c = true := by
  constructor
  · intro trimmed
    obtain ⟨before, after, whole, blankBefore, blankAfter⟩ := pads_trimChars cs
    rw [whole, trimmed, List.append_nil]
    intro c here
    exact (List.mem_append.1 here).elim (blankBefore c) (blankAfter c)
  · intro blank
    rw [trimChars, List.dropWhile_eq_nil_iff.2 blank]
    rfl

/-- The second text is what is left of the first one without the white space at its ends. -/
structure Trims (cs core : List Char) : Prop where
  pads : Pads cs core
  first : ∀ c ∈ core.head?, isBlank c = false
  last : ∀ c ∈ core.getLast?, isBlank c = false

theorem trims_trimChars (cs : List Char) : Trims cs (trimChars cs) where
  pads := pads_trimChars cs
  first := by
    -- What is cut off at the end leaves the beginning as it is, unless nothing is left.
    intro c here
    have rest : trimChars cs <+: cs.dropWhile isBlank := by
      rw [trimChars, dropEndWhile, ← List.reverse_suffix, List.reverse_reverse]
      exact List.dropWhile_suffix _
    obtain ⟨after, whole⟩ := rest
    have begins : (cs.dropWhile isBlank).head? = some c := by
      rw [← whole, List.head?_append, here, Option.some_or]
    have stop := List.head?_dropWhile_not isBlank cs
    rw [begins] at stop
    simpa using stop
  last := by
    intro c here
    rw [trimChars, dropEndWhile, List.getLast?_reverse] at here
    have stop := List.head?_dropWhile_not isBlank (cs.dropWhile isBlank).reverse
    rw [here] at stop
    simpa using stop

/-- Trimming is told by what it leaves. -/
theorem trimChars_eq_iff : trimChars cs = core ↔ Trims cs core := by
  constructor
  · rintro rfl
    exact trims_trimChars cs
  · rintro ⟨pads, first, last⟩
    by_cases empty : core = []
    · subst empty
      obtain ⟨before, after, rfl, blankBefore, blankAfter⟩ := pads
      rw [trimChars_eq_nil, List.append_nil]
      exact fun c here => (List.mem_append.1 here).elim (blankBefore c) (blankAfter c)
    · exact trimChars_of_pads pads empty (first _ (List.head?_eq_some_head empty))
        (last _ (List.getLast?_eq_some_getLast empty))

/-! ## Decimal numbers -/

theorem isDigit_of_digitIn? {c : Char} {d : Nat} (read : digitIn? 10 c = some d) :
    c.isDigit = true := by
  by_contra other
  have noDigit : ¬ ('0' ≤ c && c ≤ '9') = true := by
    intro inside
    have isSome := digit?_isSome c
    rw [digit?, if_pos inside] at isSome
    exact other isSome.symm
  unfold digitIn? at read
  rw [if_neg noDigit] at read
  -- What is left are letters, which stand for ten or more.
  obtain ⟨value, small⟩ := Option.filter_eq_some_iff.1 read
  have below : d < 10 := of_decide_eq_true small
  split_ifs at value with lower upper
  · have bound : 'a'.toNat ≤ c.toNat := by
      simp only [Bool.and_eq_true, decide_eq_true_eq] at lower
      exact lower.1
    have code : 'a'.toNat = 97 := rfl
    cases value
    omega
  · have bound : 'A'.toNat ≤ c.toNat := by
      simp only [Bool.and_eq_true, decide_eq_true_eq] at upper
      exact upper.1
    have code : 'A'.toNat = 65 := rfl
    cases value
    omega

theorem isDigit_of_foldlM {n k : Nat}
    (read : cs.foldlM (fun n c => (digitIn? 10 c).map (10 * n + ·)) n = some k) :
    ∀ c ∈ cs, c.isDigit = true := by
  induction cs generalizing n with
  | nil => exact nofun
  | cons c cs ih =>
      rw [List.foldlM_cons] at read
      obtain ⟨m, first, rest⟩ := Option.bind_eq_some_iff.1 read
      obtain ⟨d, digit, _⟩ := Option.map_eq_some_iff.1 first
      exact List.forall_mem_cons.2 ⟨isDigit_of_digitIn? digit, ih rest⟩

/-- One or more decimal digits, and the number that they stand for. -/
structure Digits (cs : List Char) (n : Nat) : Prop where
  notEmpty : cs ≠ []
  digits : ∀ c ∈ cs, c.isDigit = true
  value : Nat.ofDigitChars 10 cs 0 = n

theorem numeral?_eq_some {n : Nat} : numeral? 10 cs = some n ↔ Digits cs n := by
  constructor
  · intro read
    have notEmpty : cs ≠ [] := by
      rintro rfl
      cases read
    have digits : ∀ c ∈ cs, c.isDigit = true := by
      rw [numeral?, if_neg (by simpa using notEmpty)] at read
      exact isDigit_of_foldlM read
    rw [numeral?_digits notEmpty digits] at read
    exact ⟨notEmpty, digits, Option.some.inj read⟩
  · rintro ⟨notEmpty, digits, rfl⟩
    exact numeral?_digits notEmpty digits

/-- Decimal digits, or a plus sign and decimal digits. -/
inductive Natural : List Char → Nat → Prop where
  | plain {digits : List Char} {n : Nat} : Digits digits n → Natural digits n
  | plus {digits : List Char} {n : Nat} : Digits digits n → Natural ('+' :: digits) n

theorem natural?_eq_some {n : Nat} : natural? cs = some n ↔ Natural cs n := by
  constructor
  · intro read
    unfold natural? at read
    split at read
    · exact .plus (numeral?_eq_some.1 read)
    · exact .plain (numeral?_eq_some.1 read)
  · rintro (number | number)
    · -- A plus sign is no digit, so the digits are read as they are.
      rw [← numeral?_eq_some.2 number]
      unfold natural?
      split
      · exact absurd (number.digits '+' List.mem_cons_self) (by decide)
      · rfl
    · exact numeral?_eq_some.2 number

/-- Such a text neither begins nor ends with white space, so trimming stops at it. -/
theorem trimChars_of_natural {n : Nat} (pads : Pads cs core)
    (number : Natural core n) : trimChars cs = core := by
  have shown : ∀ c ∈ core, isBlank c = false := by
    cases number with
    | plain number => exact fun c here => Instant.isBlank_of_isDigit (number.digits c here)
    | plus number =>
        refine List.forall_mem_cons.2 ⟨by decide, ?_⟩
        exact fun c here => Instant.isBlank_of_isDigit (number.digits c here)
  have notEmpty : core ≠ [] := by
    cases number with
    | plain number => exact number.notEmpty
    | plus _ => exact List.cons_ne_nil _ _
  exact trimChars_of_pads pads notEmpty (shown _ (List.head_mem notEmpty))
    (shown _ (List.getLast_mem notEmpty))

end Text
end QuantumJobs

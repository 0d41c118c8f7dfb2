import QuantumJobs.Text.Blank

/-!
# Numerals — decimal numbers written and read

A number that is written in decimal, with or without leading zeros, is read back as that number.
-/

namespace QuantumJobs
namespace Text

theorem digit?_isSome (c : Char) : (digit? c).isSome = c.isDigit := by
  unfold digit? Char.isDigit
  by_cases low : '0' ≤ c
  · by_cases high : c ≤ '9'
    · have low' : c.val ≥ 48 := low
      have high' : c.val ≤ 57 := high
      simp [low, high, low', high']
    · have high' : ¬ c.val ≤ 57 := high
      simp [high, high']
  · have low' : ¬ c.val ≥ 48 := low
    simp [low, low']

theorem digitIn?_ten {c : Char} (isDigit : c.isDigit = true) :
    digitIn? 10 c = some (c.toNat - '0'.toNat) := by
  unfold Char.isDigit at isDigit
  simp only [Bool.and_eq_true, decide_eq_true_eq, ge_iff_le] at isDigit
  obtain ⟨low, high⟩ := isDigit
  have low' : '0' ≤ c := low
  have high' : c ≤ '9' := high
  have small : c.toNat - 48 < 10 := by
    have bound : c.val.toNat ≤ 57 := by simpa [UInt32.le_iff_toNat_le] using high
    have same : c.toNat = c.val.toNat := rfl
    omega
  unfold digitIn?
  simp [low', high', small]

theorem foldlM_digits :
    ∀ (cs : List Char) (n : Nat), (∀ c ∈ cs, c.isDigit = true) →
      cs.foldlM (fun n c => (digitIn? 10 c).map (10 * n + ·)) n
        = some (Nat.ofDigitChars 10 cs n) := by
  intro cs
  induction cs with
  | nil =>
      intro n _
      simp
  | cons c cs ih =>
      intro n digits
      have first := digitIn?_ten (digits c List.mem_cons_self)
      rw [List.foldlM_cons, first, Nat.ofDigitChars_cons]
      exact ih _ fun d here => digits d (List.mem_cons_of_mem c here)

theorem numeral?_digits {cs : List Char} (nonempty : cs ≠ [])
    (digits : ∀ c ∈ cs, c.isDigit = true) : numeral? 10 cs = some (Nat.ofDigitChars 10 cs 0) := by
  unfold numeral?
  rw [if_neg (by simpa using nonempty)]
  exact foldlM_digits cs 0 digits

/-! ## Leading zeros -/

theorem toList_zeroPadded (width n : Nat) :
    (zeroPadded width n).toList =
      List.replicate (width - (Nat.toDigits 10 n).length) '0' ++ Nat.toDigits 10 n := by
  simp [zeroPadded, Nat.toString_eq_repr, ← String.length_toList, Nat.toList_repr]

theorem isDigit_of_mem_zeroPadded {width n : Nat} :
    ∀ c ∈ (zeroPadded width n).toList, c.isDigit = true := by
  intro c here
  rw [toList_zeroPadded] at here
  rcases List.mem_append.1 here with zero | digit
  · rw [List.eq_of_mem_replicate zero]
    decide
  · exact Nat.isDigit_of_mem_toDigits (by decide) (by decide) digit

theorem zeroPadded_ne_nil {width n : Nat} : (zeroPadded width n).toList ≠ [] := by
  rw [toList_zeroPadded]
  intro empty
  exact Nat.toDigits_ne_nil (List.append_eq_nil_iff.1 empty).2

theorem length_zeroPadded {width n : Nat} (fits : (Nat.toDigits 10 n).length ≤ width) :
    (zeroPadded width n).toList.length = width := by
  rw [toList_zeroPadded, List.length_append, List.length_replicate]
  omega

/-- Leading zeros do not change a number. -/
theorem ofDigitChars_zeroPadded (width n : Nat) :
    Nat.ofDigitChars 10 (zeroPadded width n).toList 0 = n := by
  rw [toList_zeroPadded, Nat.ofDigitChars_append, Nat.ofDigitChars_replicate_zero, Nat.mul_zero]
  exact Nat.ofDigitChars_ten_toDigits

end Text
end QuantumJobs

import QuantumJobs.Proofs.Decoding
import QuantumJobs.Proofs.InstantText

/-!
# ReadInstants — instants that were read

The reader of instants takes more texts than are written: offsets, any number of digits, leap
seconds in every minute.  Whatever it takes, the instant is one that a clock can show, so it has a
written form that is read back.
-/

namespace QuantumJobs

/-! ## Numbers -/

namespace Text

theorem digitIn?_lt {base d : Nat} {c : Char} (digit : digitIn? base c = some d) : d < base := by
  unfold digitIn? at digit
  simpa using (Option.filter_eq_some_iff.1 digit).2

/-- The digits that follow a number multiply it by the base and add less than the base each. -/
theorem foldlM_digitIn?_lt {base : Nat} :
    ∀ {cs : List Char} {n m : Nat},
      cs.foldlM (fun n c => (digitIn? base c).map (base * n + ·)) n = some m →
        m < (n + 1) * base ^ cs.length := by
  intro cs
  induction cs with
  | nil =>
      intro n m read
      cases read
      simp
  | cons c cs ih =>
      intro n m read
      rw [List.foldlM_cons] at read
      obtain ⟨k, first, later⟩ := Option.bind_eq_some_iff.1 read
      obtain ⟨d, digit, rfl⟩ := Option.map_eq_some_iff.1 first
      have small : base * n + d + 1 ≤ (n + 1) * base := by
        have := digitIn?_lt digit
        rw [Nat.add_mul, Nat.one_mul, Nat.mul_comm n base]
        omega
      calc
        m < (base * n + d + 1) * base ^ cs.length := ih later
        _ ≤ (n + 1) * base * base ^ cs.length := Nat.mul_le_mul_right _ small
        _ = (n + 1) * base ^ (c :: cs).length := by
            rw [List.length_cons, Nat.pow_succ', Nat.mul_assoc]

/-- A numeral denotes a number that needs no more digits. -/
theorem numeral?_lt {base n : Nat} {cs : List Char} (read : numeral? base cs = some n) :
    n < base ^ cs.length := by
  unfold numeral? at read
  by_cases empty : cs.isEmpty = true
  · rw [if_pos empty] at read
    cases read
  · rw [if_neg empty] at read
    simpa using foldlM_digitIn?_lt read

end Text

namespace Instant

/-- A number that was read has at most as many digits as were looked at, and these are gone from the
text. -/
theorem of_readNumber {width n : Nat} {cs rest : List Char}
    (read : readNumber width cs = .ok (n, rest)) :
    ∃ taken, taken ≤ width ∧ n < 10 ^ taken ∧ cs.length - rest.length = taken := by
  cases cs with
  | nil => cases read
  | cons c cs =>
      unfold readNumber at read
      simp only at read
      split at read
      · rename_i k numeral
        cases read
        have short : (((c :: cs).take width).takeWhile isDigit).length
            ≤ ((c :: cs).take width).length := (List.takeWhile_sublist isDigit).length_le
        rw [List.length_take] at short
        refine ⟨_, Nat.le_trans short (Nat.min_le_left _ _), Text.numeral?_lt numeral, ?_⟩
        rw [List.length_drop]
        omega
      · cases read

theorem of_readWithin {low high n : Nat} {cs rest : List Char}
    (read : readWithin low high cs = .ok (n, rest)) : low ≤ n ∧ n ≤ high := by
  obtain ⟨⟨m, rest'⟩, _, read⟩ := of_bind_ok read
  by_cases inside : low ≤ m ∧ m ≤ high
  · simp only [if_pos inside] at read
    cases read
    exact inside
  · simp only [if_neg inside] at read
    cases read

/-! ## Fractions and offsets -/

/-- A fraction is less than a second. -/
theorem of_readFraction {cs rest : List Char} {n : Nat}
    (read : readFraction cs = .ok (n, rest)) : n < 1000000000 := by
  unfold readFraction at read
  split at read
  · obtain ⟨⟨m, after⟩, digits, read⟩ := of_bind_ok read
    cases read
    obtain ⟨taken, short, small, length⟩ := of_readNumber digits
    rw [length]
    calc
      m * Nat.pow 10 (9 - taken) < 10 ^ taken * 10 ^ (9 - taken) :=
        Nat.mul_lt_mul_of_pos_right small (Nat.pow_pos (by decide))
      _ = 1000000000 := by
        rw [← Nat.pow_add, Nat.add_sub_cancel' short]
  · cases read
    decide

/-- Hours and minutes after a sign are a number of minutes. -/
theorem of_signedOffset {sign offset : Int} {cs rest : List Char}
    (read : (do
      let (hours, cs) ← readPair 9 cs
      let (minutes, cs) ← readPair 5 (cs.dropWhile fun c => c = ':' || Text.isBlank c)
      Except.ok (sign * ((hours * 3600 + minutes * 60 : Nat) : Int), cs) : Reading _)
        = .ok (offset, rest)) :
    ∃ minutes : Int, offset = minutes * 60 := by
  obtain ⟨⟨hours, _⟩, _, read⟩ := of_bind_ok read
  obtain ⟨⟨minutes, _⟩, _, read⟩ := of_bind_ok read
  cases read
  refine ⟨sign * (hours * 60 + minutes), ?_⟩
  rw [Int.mul_assoc]
  congr 1
  push_cast
  omega

/-- An offset is a whole number of minutes. -/
theorem of_readOffset {cs rest : List Char} {offset : Int}
    (read : readOffset cs = .ok (offset, rest)) : ∃ minutes : Int, offset = minutes * 60 := by
  unfold readOffset at read
  split at read
  · cases read
  · split at read
    · cases read
      exact ⟨0, rfl⟩
    · split at read
      · cases read
        exact ⟨0, rfl⟩
      · split at read
        · exact of_signedOffset read
        · split at read
          · exact of_signedOffset read
          · cases read

/-! ## Whole instants -/

/-- A local time with a leap second only at the end of a minute stands for a valid instant. -/
theorem valid_of_ofLocal {year minutes : Int} {month day hour minute second nano : Nat}
    {t : Instant} (hours : hour ≤ 23) (sixty : minute ≤ 59) (seconds : second ≤ 60)
    (fraction : nano < 1000000000)
    (read : ofLocal year month day (hour * 3600 + minute * 60 + second - second / 60)
      (nano + second / 60 * 1000000000) (minutes * 60) = .ok t) : t.Valid := by
  unfold ofLocal at read
  split at read
  · cases read
  · split at read
    · cases read
    · simp only at read
      split at read
      · rename_i ranged
        cases read
        refine ⟨ranged, ?_, ?_, ?_⟩
        · show Int.toNat _ < 86400
          omega
        · show nano + second / 60 * 1000000000 < 2000000000
          omega
        · intro leap
          have leap : 1000000000 ≤ nano + second / 60 * 1000000000 := leap
          obtain rfl : second = 60 := by omega
          show Int.toNat _ % 60 = 59
          omega
      · cases read

/-- Every instant that is read is one that a clock can show. -/
theorem valid_of_ofText {s : String} {t : Instant} (read : ofText s = .ok t) : t.Valid := by
  -- The parts of the text in their order; what is read of the date does not matter.
  obtain ⟨⟨year, _⟩, _, read⟩ := of_bind_ok read
  obtain ⟨_, _, read⟩ := of_bind_ok read
  obtain ⟨⟨month, _⟩, _, read⟩ := of_bind_ok read
  obtain ⟨_, _, read⟩ := of_bind_ok read
  obtain ⟨⟨day, cs⟩, _, read⟩ := of_bind_ok read
  rcases cs with _ | ⟨c, cs⟩
  · cases read
  by_cases mark : c = 't' ∨ c = 'T' ∨ c = ' '
  case neg =>
    simp only [if_neg mark] at read
    cases read
  simp only [if_pos mark] at read
  obtain ⟨_, _, read⟩ := of_bind_ok read
  obtain ⟨⟨hour, _⟩, hourRead, read⟩ := of_bind_ok read
  obtain ⟨_, _, read⟩ := of_bind_ok read
  obtain ⟨⟨minute, _⟩, minuteRead, read⟩ := of_bind_ok read
  obtain ⟨_, _, read⟩ := of_bind_ok read
  obtain ⟨⟨second, _⟩, secondRead, read⟩ := of_bind_ok read
  obtain ⟨⟨nano, _⟩, nanoRead, read⟩ := of_bind_ok read
  obtain ⟨⟨offset, rest⟩, offsetRead, read⟩ := of_bind_ok read
  obtain ⟨minutes, rfl⟩ := of_readOffset offsetRead
  by_cases ended : (skipBlank rest).isEmpty = true
  · simp only [if_pos ended] at read
    exact valid_of_ofLocal (of_readWithin hourRead).2 (of_readWithin minuteRead).2
      (of_readWithin secondRead).2 (of_readFraction nanoRead) read
  · simp only [if_neg ended] at read
    cases read

end Instant
end QuantumJobs

import QuantumJobs.Proofs.Calendar
import QuantumJobs.Proofs.Numerals

/-!
# InstantText — instants written and read

The text of every instant that a clock can show is read back as that instant.  The reader's steps
are taken one by one: each reads what the writer has put in its place and leaves the rest.
-/

namespace QuantumJobs
namespace Instant

/-- An instant that a clock can show: the day is in range, and a leap second is the last second of
its minute. -/
structure Valid (t : Instant) : Prop where
  ranged : inRange t.day = true
  second : t.second < 86400
  nano : t.nano < 2000000000
  leap : 1000000000 ≤ t.nano → t.second % 60 = 59

instance (t : Instant) : Decidable t.Valid :=
  decidable_of_iff
    (inRange t.day = true ∧ t.second < 86400 ∧ t.nano < 2000000000 ∧
      (1000000000 ≤ t.nano → t.second % 60 = 59))
    ⟨fun ⟨a, b, c, d⟩ => ⟨a, b, c, d⟩, fun ⟨a, b, c, d⟩ => ⟨a, b, c, d⟩⟩

/-! ## Numbers -/

theorem isDigit_eq (c : Char) : isDigit c = c.isDigit := Text.digit?_isSome c

/-- A text that no number can go on with. -/
def NoDigit (cs : List Char) : Prop := ∀ c rest, cs = c :: rest → c.isDigit = false

theorem noDigit_cons {c : Char} {cs : List Char} (notDigit : c.isDigit = false) :
    NoDigit (c :: cs) := by
  intro d rest same
  cases same
  exact notDigit

theorem takeWhile_digits {ds rest : List Char} (digits : ∀ c ∈ ds, c.isDigit = true)
    (stop : NoDigit rest) : (ds ++ rest).takeWhile isDigit = ds := by
  rw [List.takeWhile_append_of_pos (by simpa [isDigit_eq] using digits)]
  cases rest with
  | nil => simp
  | cons c cs =>
      have notDigit : isDigit c = false := by rw [isDigit_eq, stop c cs rfl]
      rw [List.takeWhile_cons_of_neg (by simp [notDigit]), List.append_nil]

/-- A number is read to its last digit, or to the last one that is looked at. -/
theorem readNumber_digits {width : Nat} {ds rest : List Char} (nonempty : ds ≠ [])
    (digits : ∀ c ∈ ds, c.isDigit = true) (fits : ds.length ≤ width)
    (stop : ds.length = width ∨ NoDigit rest) :
    readNumber width (ds ++ rest) = .ok (Nat.ofDigitChars 10 ds 0, rest) := by
  have taken : ((ds ++ rest).take width).takeWhile isDigit = ds := by
    rw [List.take_append, List.take_of_length_le fits]
    apply takeWhile_digits digits
    -- Either the width is used up, or the rest does not go on with a digit.
    rcases stop with full | stop
    · intro c cs same
      simp [full] at same
    · intro c cs same
      cases rest with
      | nil => simp at same
      | cons d rest =>
          cases left : width - ds.length with
          | zero => simp [left] at same
          | succ n =>
              rw [left, List.take_succ_cons] at same
              cases same
              exact stop _ _ rfl
  cases ds with
  | nil => exact absurd rfl nonempty
  | cons d ds =>
      rw [List.cons_append] at taken ⊢
      unfold readNumber
      simp only [taken, Text.numeral?_digits nonempty digits]
      rw [← List.cons_append, List.drop_left]

theorem readNumber_zeroPadded {width n : Nat} {rest : List Char}
    (fits : (Nat.toDigits 10 n).length ≤ width) :
    readNumber width ((Text.zeroPadded width n).toList ++ rest) = .ok (n, rest) := by
  have length := Text.length_zeroPadded fits
  rw [readNumber_digits Text.zeroPadded_ne_nil Text.isDigit_of_mem_zeroPadded (by omega)
    (.inl length), Text.ofDigitChars_zeroPadded]

/-- No digit is white space. -/
theorem isBlank_of_isDigit {c : Char} (digit : c.isDigit = true) : Text.isBlank c = false := by
  have bounds : 48 ≤ c.toNat ∧ c.toNat ≤ 57 := by
    unfold Char.isDigit at digit
    simp only [Bool.and_eq_true, decide_eq_true_eq, ge_iff_le, UInt32.le_iff_toNat_le] at digit
    exact digit
  unfold Text.isBlank
  simp only [Bool.or_eq_false_iff, Bool.and_eq_false_iff, decide_eq_false_iff_not]
  omega

theorem skipBlank_cons {c : Char} {cs : List Char} (shown : Text.isBlank c = false) :
    skipBlank (c :: cs) = c :: cs := by
  unfold skipBlank
  rw [List.dropWhile_cons_of_neg (by simp [shown])]

theorem skipBlank_digits {ds rest : List Char} (nonempty : ds ≠ [])
    (digits : ∀ c ∈ ds, c.isDigit = true) : skipBlank (ds ++ rest) = ds ++ rest := by
  cases ds with
  | nil => exact absurd rfl nonempty
  | cons d ds => exact skipBlank_cons (isBlank_of_isDigit (digits d List.mem_cons_self))

theorem readWithin_zeroPadded {low high n : Nat} {rest : List Char} (small : high < 100)
    (above : low ≤ n) (below : n ≤ high) :
    readWithin low high ((Text.zeroPadded 2 n).toList ++ rest) = .ok (n, rest) := by
  have fits : (Nat.toDigits 10 n).length ≤ 2 := by
    rw [Nat.length_toDigits_le_iff (by decide) (by decide)]
    exact Nat.lt_of_le_of_lt below small
  unfold readWithin
  rw [skipBlank_digits Text.zeroPadded_ne_nil Text.isDigit_of_mem_zeroPadded,
    readNumber_zeroPadded fits]
  simp [above, below, Bind.bind, Except.bind]

theorem readMark_cons {mark : Char} {rest : List Char} (shown : Text.isBlank mark = false) :
    readMark mark (mark :: rest) = .ok rest := by
  unfold readMark
  rw [skipBlank_cons shown]
  simp

/-! ## Years -/

/-- A digit is no sign, so a year that starts with one is read as it is. -/
theorem readYear_digits {ds rest : List Char} (nonempty : ds ≠ [])
    (digits : ∀ c ∈ ds, c.isDigit = true) :
    readYear (ds ++ rest) = (readNumber 4 (ds ++ rest)).map fun (n, rest) => ((n : Int), rest) := by
  unfold readYear
  rw [skipBlank_digits nonempty digits]
  cases ds with
  | nil => exact absurd rfl nonempty
  | cons d ds =>
      have digit := digits d List.mem_cons_self
      split
      · rename_i same
        cases same
        cases digit
      · rename_i same
        cases same
        cases digit
      · rfl

/-- A number with its sign before it and no digit after it is read whole. -/
theorem readNumber_whole {n : Nat} {rest : List Char} (stop : NoDigit rest) :
    readNumber ((Text.zeroPadded 4 n).toList ++ rest).length ((Text.zeroPadded 4 n).toList ++ rest)
      = .ok (n, rest) := by
  rw [readNumber_digits Text.zeroPadded_ne_nil Text.isDigit_of_mem_zeroPadded (by simp) (.inr stop),
    Text.ofDigitChars_zeroPadded]

theorem toList_yearText_of_negative {year : Int} (negative : year < 0) :
    (yearText year).toList = '-' :: (Text.zeroPadded 4 year.natAbs).toList := by
  have notPlain : ¬ (0 ≤ year ∧ year ≤ 9999) := by omega
  simp [yearText, negative, notPlain]

theorem toList_yearText_of_long {year : Int} (long : 9999 < year) :
    (yearText year).toList = '+' :: (Text.zeroPadded 4 year.natAbs).toList := by
  have notPlain : ¬ (0 ≤ year ∧ year ≤ 9999) := by omega
  have notNegative : ¬ year < 0 := by omega
  simp [yearText, notNegative, notPlain]

theorem readYear_yearText {year : Int} {rest : List Char}
    (low : yearRange.1 ≤ year) (high : year ≤ yearRange.2) (stop : NoDigit rest) :
    readYear ((yearText year).toList ++ rest) = .ok (year, rest) := by
  unfold yearRange at low high
  -- Years before zero have a sign, and so have those of more than four digits.
  by_cases negative : year < 0
  · have back : -(year.natAbs : Int) = year := by omega
    have small : year.natAbs ≤ yearLimit := by
      unfold yearLimit
      omega
    rw [toList_yearText_of_negative negative, List.cons_append]
    unfold readYear
    rw [skipBlank_cons (by decide)]
    simp only [readNumber_whole stop, Bind.bind, Except.bind, small, if_true, back]
  · by_cases long : 9999 < year
    · have back : (year.natAbs : Int) = year := by omega
      have small : year.natAbs < yearLimit := by
        unfold yearLimit
        omega
      rw [toList_yearText_of_long long, List.cons_append]
      unfold readYear
      rw [skipBlank_cons (by decide)]
      simp only [readNumber_whole stop, Bind.bind, Except.bind, small, if_true, back]
    · have plain : (decide (0 ≤ year) && decide (year ≤ 9999)) = true := by
        simp only [Bool.and_eq_true, decide_eq_true_eq]
        omega
      have fits : (Nat.toDigits 10 year.toNat).length ≤ 4 := by
        rw [Nat.length_toDigits_le_iff (by decide) (by decide)]
        omega
      have back : (year.toNat : Int) = year := by omega
      unfold yearText
      rw [if_pos plain, readYear_digits Text.zeroPadded_ne_nil Text.isDigit_of_mem_zeroPadded,
        readNumber_zeroPadded fits]
      simp only [Except.map, back]

/-! ## Fractions and the end -/

theorem dropWhile_noDigit {rest : List Char} (stop : NoDigit rest) :
    rest.dropWhile isDigit = rest := by
  cases rest with
  | nil => rfl
  | cons c cs =>
      have notDigit : isDigit c = false := by rw [isDigit_eq, stop c cs rfl]
      rw [List.dropWhile_cons_of_neg (by simp [notDigit])]

/-- A fraction of `width` digits stands for so many units of its last digit. -/
theorem readFraction_digits {width n unit : Nat} {rest : List Char} (short : width ≤ 9)
    (fits : (Nat.toDigits 10 n).length ≤ width) (unit_eq : Nat.pow 10 (9 - width) = unit)
    (stop : NoDigit rest) :
    readFraction ('.' :: (Text.zeroPadded width n).toList ++ rest) = .ok (n * unit, rest) := by
  have length := Text.length_zeroPadded fits
  have read : readNumber 9 ((Text.zeroPadded width n).toList ++ rest) = .ok (n, rest) := by
    rw [readNumber_digits Text.zeroPadded_ne_nil Text.isDigit_of_mem_zeroPadded (by omega)
      (.inr stop), Text.ofDigitChars_zeroPadded]
  simp only [List.cons_append, readFraction, read, Bind.bind, Except.bind, dropWhile_noDigit stop,
    List.length_append, length, Nat.add_sub_cancel, unit_eq]

/-- A fraction that is a multiple of the unit of its last digit is read back. -/
theorem readFraction_units {width n unit : Nat} {rest : List Char} (short : width ≤ 9)
    (positive : 0 < width) (unit_eq : Nat.pow 10 (9 - width) = unit)
    (small : n / unit < Nat.pow 10 width) (whole : n / unit * unit = n) (stop : NoDigit rest) :
    readFraction ('.' :: (Text.zeroPadded width (n / unit)).toList ++ rest) = .ok (n, rest) := by
  have fits : (Nat.toDigits 10 (n / unit)).length ≤ width :=
    (Nat.length_toDigits_le_iff (by decide) positive).2 small
  rw [readFraction_digits short fits unit_eq stop, whole]

theorem readFraction_fractionText (t : Instant) :
    readFraction (t.fractionText.toList ++ ['Z']) = .ok (t.nano % 1000000000, ['Z']) := by
  have stop : NoDigit ['Z'] := noDigit_cons (by decide)
  have small : t.nano % 1000000000 < 1000000000 := Nat.mod_lt _ (by decide)
  simp only [fractionText]
  generalize t.nano % 1000000000 = n at *
  by_cases zero : n = 0
  · subst zero
    rfl
  · rw [if_neg zero]
    -- The fraction is written in the largest of three units that it is a multiple of.
    by_cases millis : n % 1000000 = 0
    · have fits : n / 1000000 < 1000 := by omega
      have whole : n / 1000000 * 1000000 = n := by omega
      rw [if_pos millis, String.toList_append]
      exact readFraction_units (by decide) (by decide) rfl fits whole stop
    · rw [if_neg millis]
      by_cases micros : n % 1000 = 0
      · have fits : n / 1000 < 1000000 := by omega
        have whole : n / 1000 * 1000 = n := by omega
        rw [if_pos micros, String.toList_append]
        exact readFraction_units (by decide) (by decide) rfl fits whole stop
      · have fits : n / 1 < 1000000000 := by omega
        have whole : n / 1 * 1 = n := by omega
        have read := @readFraction_units 9 n 1 ['Z'] (by decide) (by decide) rfl fits whole stop
        rw [if_neg micros, String.toList_append]
        rwa [Nat.div_one] at read

theorem readOffset_utc : readOffset (skipBlank ['Z']) = .ok (0, []) := by decide

/-! ## The whole text -/

/-- The second as it is written; a leap second is the sixtieth. -/
def shownSecond (t : Instant) : Nat := t.second % 60 + t.nano / 1000000000

theorem toList_toText (t : Instant) :
    t.toText.toList =
      (yearText (dateOf t.day).1).toList ++ '-' :: ((Text.zeroPadded 2 (dateOf t.day).2.1).toList
        ++ '-' :: ((Text.zeroPadded 2 (dateOf t.day).2.2).toList
        ++ 'T' :: ((Text.zeroPadded 2 (t.second / 3600)).toList
        ++ ':' :: ((Text.zeroPadded 2 (t.second / 60 % 60)).toList
        ++ ':' :: ((Text.zeroPadded 2 t.shownSecond).toList
        ++ (t.fractionText.toList ++ ['Z'])))))) := by
  simp [toText, dateText, clockText, shownSecond]

/-- The reader puts a valid date and time together again. -/
theorem ofLocal_dateOf {t : Instant} (valid : t.Valid) :
    ofLocal (dateOf t.day).1 (dateOf t.day).2.1 (dateOf t.day).2.2 t.second t.nano 0 = .ok t := by
  obtain ⟨_, _, _, inMonth⟩ := dateOf_spec t.day
  obtain ⟨low, high⟩ := year_inRange valid.ranged
  have second := valid.second
  have noDays : (t.second : Int) / 86400 = 0 := by omega
  have sameSecond : ((t.second : Int) % 86400).toNat = t.second := by omega
  have dateFits : ¬ ((dateOf t.day).1 < yearRange.1 ∨ yearRange.2 < (dateOf t.day).1 ∨
      daysInMonth (dateOf t.day).1 (dateOf t.day).2.1 < (dateOf t.day).2.2) := by omega
  unfold ofLocal
  rw [if_neg dateFits, if_neg (by decide)]
  simp only [Int.sub_zero, dayOf_dateOf, noDays, Int.add_zero, sameSecond, valid.ranged, if_true]

/-- Reading undoes writing. -/
theorem ofText_toText {t : Instant} (valid : t.Valid) : ofText t.toText = .ok t := by
  obtain ⟨monthLow, monthHigh, dayLow, inMonth⟩ := dateOf_spec t.day
  obtain ⟨low, high⟩ := year_inRange valid.ranged
  have dayHigh : (dateOf t.day).2.2 ≤ 31 := by
    have month : daysInMonth (dateOf t.day).1 (dateOf t.day).2.1 ≤ 31 := by
      unfold daysInMonth
      split
      · split <;> decide
      · split <;> decide
    omega
  have second := valid.second
  have nano := valid.nano
  have leap := valid.leap
  have shown : t.shownSecond = t.second % 60 + t.nano / 1000000000 := rfl
  have hourHigh : t.second / 3600 ≤ 23 := by omega
  have minuteHigh : t.second / 60 % 60 ≤ 59 := by omega
  have secondHigh : t.shownSecond ≤ 60 := by omega
  -- A shown second of sixty stands for the leap second after the fifty-ninth.
  have sameSecond : t.second / 3600 * 3600 + t.second / 60 % 60 * 60 + t.shownSecond
      - t.shownSecond / 60 = t.second := by omega
  have sameNano : t.nano % 1000000000 + t.shownSecond / 60 * 1000000000 = t.nano := by omega
  unfold ofText ofChars
  rw [toList_toText, readYear_yearText low high (noDigit_cons (by decide))]
  simp only [Bind.bind, Except.bind, readMark_cons (show Text.isBlank '-' = false by decide),
    readWithin_zeroPadded (show 12 < 100 by decide) monthLow monthHigh,
    readWithin_zeroPadded (show 31 < 100 by decide) dayLow dayHigh]
  simp only [readWithin_zeroPadded (show 23 < 100 by decide) (Nat.zero_le _) hourHigh,
    readWithin_zeroPadded (show 59 < 100 by decide) (Nat.zero_le _) minuteHigh,
    readWithin_zeroPadded (show 60 < 100 by decide) (Nat.zero_le _) secondHigh,
    readMark_cons (show Text.isBlank ':' = false by decide), or_true, true_or, if_true,
    readFraction_fractionText, readOffset_utc]
  simp only [sameSecond, sameNano]
  exact ofLocal_dateOf valid

end Instant
end QuantumJobs

import Mathlib.Tactic.SplitIfs
import QuantumJobs.Dict

/-!
# ByteOrder — the order of texts is that of their bytes

Finite maps keep their keys in the order of code points.  Written in bytes, of two characters the
one with the smaller code point has the smaller first byte where they differ, so texts are ordered
in the same way if their bytes are compared one after another.
-/

namespace QuantumJobs
namespace Text

/-- The bytes of a text in UTF-8. -/
def bytes (s : String) : List Nat := s.toUTF8.data.toList.map UInt8.toNat

/-- A text comes before another if its bytes do: it has the smaller one where they first differ, or
ends where the other goes on. -/
abbrev BytesBefore (s t : String) : Prop := List.Lex (· < ·) (bytes s) (bytes t)

/-! ## Characters -/

/-- The bytes of a character by its code point. -/
def encoded (n : Nat) : List Nat :=
  if n ≤ 0x7F then [n]
  else if n ≤ 0x7FF then [n / 64 + 0xC0, n % 64 + 0x80]
  else if n ≤ 0xFFFF then [n / 4096 + 0xE0, n / 64 % 64 + 0x80, n % 64 + 0x80]
  else [n / 262144 + 0xF0, n / 4096 % 64 + 0x80, n / 64 % 64 + 0x80, n % 64 + 0x80]

theorem codePoint_lt (c : Char) : c.val.toNat < 0x110000 := by
  rcases c.valid with low | ⟨_, high⟩
  · exact Nat.lt_trans low (by decide)
  · exact high

theorem map_utf8EncodeChar (c : Char) :
    (String.utf8EncodeChar c).map UInt8.toNat = encoded c.val.toNat := by
  have bound := codePoint_lt c
  unfold String.utf8EncodeChar encoded
  simp only
  split_ifs <;>
    simp only [List.map_cons, List.map_nil, UInt8.toNat_ofNat', List.cons.injEq, and_true] <;> omega

/-- Whatever follows, of two characters that differ the smaller one comes before.  If it takes fewer
bytes, its first byte is smaller; if not, the bytes are the digits of the two code points. -/
theorem lex_encoded {m n : Nat} (smaller : m < n) (xs ys : List Nat) :
    List.Lex (· < ·) (encoded m ++ xs) (encoded n ++ ys) := by
  unfold encoded
  split_ifs <;> simp only [List.cons_append, List.nil_append, List.cons_lex_cons_iff] <;> omega

theorem encoded_ne_nil (n : Nat) : encoded n ≠ [] := by
  unfold encoded
  split_ifs <;> exact List.cons_ne_nil _ _

/-! ## Texts -/

theorem bytes_eq_flatMap (s : String) :
    bytes s = s.toList.flatMap fun c => encoded c.val.toNat := by
  have spelled : s.toUTF8 = (s.toList.flatMap String.utf8EncodeChar).toByteArray :=
    String.utf8Encode_toList.symm
  rw [bytes, spelled, List.toList_data_toByteArray, List.map_flatMap]
  simp only [map_utf8EncodeChar]

/-- By induction along the characters that two texts have in common. -/
theorem lex_flatMap_encoded {cs ds : List Char} (smaller : List.Lex (· < ·) cs ds) :
    List.Lex (· < ·) (cs.flatMap fun c => encoded c.val.toNat)
      (ds.flatMap fun c => encoded c.val.toNat) := by
  induction smaller with
  | @nil d ds =>
      obtain ⟨byte, bytes, first⟩ := List.exists_cons_of_ne_nil (encoded_ne_nil d.val.toNat)
      rw [List.flatMap_nil, List.flatMap_cons, first]
      exact .nil
  | rel smaller => exact lex_encoded smaller _ _
  | cons _ ih => exact List.append_left_lt ih

theorem bytesBefore_of_lt {s t : String} (smaller : s < t) : BytesBefore s t := by
  unfold BytesBefore
  rw [bytes_eq_flatMap, bytes_eq_flatMap]
  exact lex_flatMap_encoded smaller

theorem bytesBefore_iff_lt {s t : String} : BytesBefore s t ↔ s < t := by
  refine ⟨?_, bytesBefore_of_lt⟩
  intro before
  -- Else the texts are equal or the other way round, and their bytes as well.
  rcases Decidable.em (s < t) with smaller | notSmaller
  · exact smaller
  · rcases Decidable.em (t < s) with larger | notLarger
    · exact absurd (bytesBefore_of_lt larger) (List.lt_asymm before)
    · obtain rfl : s = t := String.le_antisymm notLarger notSmaller
      exact absurd before (List.lt_irrefl (bytes s))

end Text
end QuantumJobs

/-!
# Utf8 — reading bytes as text

Bytes are read as pieces: characters, and maximal runs of bytes that start a character and do not
finish one.  Text proper has no such run; `Blob` keeps the two cases apart, and the lenient reading
puts the replacement character U+FFFD in each run's place.
-/

namespace QuantumJobs
namespace Utf8

/-- What a leading byte announces: how many bytes follow, the range of the next one, and the value
of its own bits. -/
structure Lead where
  following : Nat
  low : Nat
  high : Nat
  bits : Nat

def lead? (b : Nat) : Option Lead :=
  if b < 0x80 then some ⟨0, 0, 0, b⟩
  else if 0xC2 ≤ b && b ≤ 0xDF then some ⟨1, 0x80, 0xBF, b - 0xC0⟩
  else if b = 0xE0 then some ⟨2, 0xA0, 0xBF, 0⟩
  else if b = 0xED then some ⟨2, 0x80, 0x9F, 0xD⟩
  else if 0xE1 ≤ b && b ≤ 0xEF then some ⟨2, 0x80, 0xBF, b - 0xE0⟩
  else if b = 0xF0 then some ⟨3, 0x90, 0xBF, 0⟩
  else if 0xF1 ≤ b && b ≤ 0xF3 then some ⟨3, 0x80, 0xBF, b - 0xF0⟩
  else if b = 0xF4 then some ⟨3, 0x80, 0x8F, 4⟩
  else none

/-- Reads the bytes that follow a leading byte; stops before the first that does not fit. -/
def following : Nat → Nat → Nat → Nat → List UInt8 → Option Nat × List UInt8
  | 0, _, _, bits, bs => (some bits, bs)
  | _ + 1, _, _, _, [] => (none, [])
  | n + 1, low, high, bits, b :: bs =>
      if low ≤ b.toNat && b.toNat ≤ high then
        following n 0x80 0xBF (bits * 64 + (b.toNat - 0x80)) bs
      else (none, b :: bs)

theorem following_length :
    ∀ (n low high bits : Nat) (bs : List UInt8),
      (following n low high bits bs).2.length ≤ bs.length
  | 0, _, _, _, _ => Nat.le_refl _
  | _ + 1, _, _, _, [] => Nat.le_refl _
  | n + 1, low, high, bits, b :: bs => by
      unfold following
      split
      · exact Nat.le_succ_of_le (following_length n _ _ _ bs)
      · exact Nat.le_refl _

/-- A part of a text that is read from bytes. -/
inductive Piece
  | char (c : Char)
  /-- Bytes that spell no character. -/
  | broken (size : Nat)
  deriving DecidableEq, Repr

namespace Piece

def char? : Piece → Option Char
  | .char c => some c
  | .broken _ => none

/-- The character, with U+FFFD for bytes that spell none. -/
def lenient (p : Piece) : Char := p.char?.getD '\ufffd'

/-- The character, or nothing in place of each byte. -/
def symbols : Piece → List (Option Char)
  | .char c => [some c]
  | .broken size => List.replicate size none

end Piece

/-- The pieces of a text in bytes. -/
def decode : List UInt8 → List Piece
  | [] => []
  | b :: bs =>
      match lead? b.toNat with
      | none => .broken 1 :: decode bs
      | some l =>
          let step := following l.following l.low l.high l.bits bs
          let piece : Piece := match step.1 with
            | some n => .char (Char.ofNat n)
            | none => .broken (1 + (bs.length - step.2.length))
          piece :: decode step.2
  termination_by bs => bs.length
  decreasing_by
    · simp
    · exact Nat.lt_succ_of_le (following_length _ _ _ _ _)

end Utf8

/-! ## Contents of files and bodies -/

/-- Text, or bytes that are not text. -/
inductive Blob
  | text (s : String)
  | raw (bytes : List UInt8)
  deriving DecidableEq, Repr

namespace Blob

def ofBytes (bytes : List UInt8) : Blob :=
  match (Utf8.decode bytes).mapM (·.char?) with
  | some cs => .text (String.ofList cs)
  | none => .raw bytes

/-- The text, with U+FFFD for each malformed run. -/
def lenient : Blob → String
  | .text s => s
  | .raw bytes => String.ofList ((Utf8.decode bytes).map (·.lenient))

/-- The characters, with nothing in place of each byte that belongs to none. -/
def symbols : Blob → List (Option Char)
  | .text s => s.toList.map some
  | .raw bytes => (Utf8.decode bytes).flatMap (·.symbols)

end Blob
end QuantumJobs

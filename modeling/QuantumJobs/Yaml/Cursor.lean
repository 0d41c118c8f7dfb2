import QuantumJobs.Text.Blank

/-!
# Cursor — a place in a YAML text

A text is prepared by giving all its line breaks one form.  A cursor holds what is left of the text
and the line and column where that starts.
-/

namespace QuantumJobs
namespace Yaml

/-! ## Characters -/

/-- Whether YAML allows a character in a text at all. -/
def isPrintable (c : Char) : Bool :=
  let n := c.toNat
  n = 0x09 || n = 0x0A || n = 0x0D || (0x20 ≤ n && n ≤ 0x7E) || n = 0x85
    || (0xA0 ≤ n && n ≤ 0xD7FF) || (0xE000 ≤ n && n ≤ 0xFFFD) || 0x10000 ≤ n

/-- A line feed, and the line and paragraph separators. -/
def isBreak (c : Char) : Bool := c = '\n' || c = '\u2028' || c = '\u2029'

def isBlank (c : Char) : Bool := c = ' ' || c = '\t'

/-- Whether a blank, a line break or the end of the text is there. -/
def isGap : Option Char → Bool
  | none => true
  | some c => isBlank c || isBreak c

/-- A character of an anchor or a tag handle. -/
def isWordChar (c : Char) : Bool := c.isAlphanum || c = '_' || c = '-'

/-- Turns carriage returns, with or without a line feed, and next-line characters into line
feeds. -/
def unifyBreaks : List Char → List Char
  | [] => []
  | '\r' :: '\n' :: cs => '\n' :: unifyBreaks cs
  | c :: cs => (if c = '\r' || c = '\u0085' then '\n' else c) :: unifyBreaks cs

/-! ## Cursors -/

structure Cursor where
  rest : List Char
  /-- How many characters stand before. -/
  index : Nat
  line : Nat
  column : Nat
  deriving Inhabited

namespace Cursor

def start (cs : List Char) : Cursor := ⟨cs, 0, 0, 0⟩

def peek (c : Cursor) : Option Char := c.rest.head?

def peekAt (c : Cursor) (n : Nat) : Option Char := c.rest[n]?

/-- Passes one character; a line break starts a new line. -/
def skip (c : Cursor) : Cursor :=
  match c.rest with
  | [] => c
  | x :: rest =>
      if isBreak x then ⟨rest, c.index + 1, c.line + 1, 0⟩
      else ⟨rest, c.index + 1, c.line, c.column + 1⟩

def skipMany : Nat → Cursor → Cursor
  | 0, c => c
  | n + 1, c => skipMany n c.skip

/-- Passes characters of a line while they satisfy the test. -/
def skipWhile (p : Char → Bool) (c : Cursor) : Cursor :=
  skipMany (c.rest.takeWhile fun x => p x && !isBreak x).length c

/-- The characters of a line that satisfy the test, and the cursor behind them. -/
def takeWhile (p : Char → Bool) (c : Cursor) : List Char × Cursor :=
  let taken := c.rest.takeWhile fun x => p x && !isBreak x
  (taken, skipMany taken.length c)

def isAt (c : Cursor) (x : Char) : Bool := c.peek = some x

/-- Whether three equal marks and a gap stand at the start of a line. -/
def isMarked (mark : Char) (c : Cursor) : Bool :=
  c.column = 0 && c.rest.take 3 = [mark, mark, mark] && isGap (c.peekAt 3)

/-- Whether a document starts or ends here. -/
def isDocumentMark (c : Cursor) : Bool := c.isMarked '-' || c.isMarked '.'

end Cursor
end Yaml
end QuantumJobs

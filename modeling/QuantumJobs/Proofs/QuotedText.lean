import Mathlib.Tactic.SplitIfs
import QuantumJobs.Text.Blank
import QuantumJobs.Text.Quoted

/-!
# QuotedText — a quoted text can be told from what follows it

Escaping loses nothing: no two characters have the same escaped form, none of these forms begins
another, and none begins with a double quote.  So the double quote that closes a quoted text is the
first one that stands by itself, and from a text that begins with a quoted one it can be told what
was quoted and where it ends.
-/

namespace QuantumJobs
namespace Text

/-! ## Writers -/

section

variable {α β : Type}

/-- From a text it can be told what was written at its front, and what follows it. -/
def SelfDelimiting (write : α → List Char) : Prop :=
  ∀ a b x y, write a ++ x = write b ++ y → a = b ∧ x = y

variable {write : α → List Char} {write' : β → List Char}

theorem SelfDelimiting.between (tells : SelfDelimiting write) (before after : List Char) :
    SelfDelimiting fun a => before ++ write a ++ after := by
  intro a b x y same
  simp only [List.append_assoc, List.append_cancel_left_eq] at same
  obtain ⟨rfl, rest⟩ := tells a b _ _ same
  exact ⟨rfl, List.append_cancel_left rest⟩

theorem SelfDelimiting.pair (first : SelfDelimiting write) (second : SelfDelimiting write')
    (separator : List Char) :
    SelfDelimiting fun p : α × β => write p.1 ++ (separator ++ write' p.2) := by
  rintro ⟨a, a'⟩ ⟨b, b'⟩ x y same
  simp only [List.append_assoc] at same
  obtain ⟨rfl, rest⟩ := first a b _ _ same
  obtain ⟨rfl, rest'⟩ := second a' b' _ _ (List.append_cancel_left rest)
  exact ⟨rfl, rest'⟩

/-- A character marks the end of what does not contain it. -/
theorem split_at_first {stop : Char} {x y : List Char} :
    ∀ {t u : List Char}, stop ∉ t → stop ∉ u → t ++ stop :: x = u ++ stop :: y → t = u ∧ x = y := by
  intro t
  induction t with
  | nil =>
      intro u _ notInU same
      cases u with
      | nil => exact ⟨rfl, (List.cons.inj same).2⟩
      | cons d u => exact absurd (List.cons.inj same).1 (List.ne_of_not_mem_cons notInU)
  | cons c t ih =>
      intro u notInT notInU same
      cases u with
      | nil => exact absurd (List.cons.inj same).1.symm (List.ne_of_not_mem_cons notInT)
      | cons d u =>
          obtain ⟨rfl, rest⟩ := List.cons.inj same
          obtain ⟨rfl, behind⟩ := ih (List.not_mem_of_not_mem_cons notInT)
            (List.not_mem_of_not_mem_cons notInU) rest
          exact ⟨rfl, behind⟩

/-- Nothing that is written is empty or begins with the character. -/
def Avoids (write : α → List Char) (stop : Char) : Prop :=
  ∀ a, ∃ c cs, write a = c :: cs ∧ c ≠ stop

/-- A list can be written item by item if it is closed by a character that begins no item. -/
theorem SelfDelimiting.list {stop : Char} (tells : SelfDelimiting write)
    (avoids : Avoids write stop) :
    SelfDelimiting fun as : List α => as.flatMap write ++ [stop] := by
  -- At each place the first character tells whether there is one more item.
  intro as
  induction as with
  | nil =>
      intro bs x y same
      cases bs with
      | nil => exact ⟨rfl, (List.cons.inj same).2⟩
      | cons b bs =>
          obtain ⟨c, cs, written, differs⟩ := avoids b
          simp only [List.flatMap_cons, written] at same
          exact absurd (List.cons.inj same).1.symm differs
  | cons a as ih =>
      intro bs x y same
      cases bs with
      | nil =>
          obtain ⟨c, cs, written, differs⟩ := avoids a
          simp only [List.flatMap_cons, written] at same
          exact absurd (List.cons.inj same).1 differs
      | cons b bs =>
          simp only [List.flatMap_cons, List.append_assoc] at same
          obtain ⟨rfl, rest⟩ := tells a b _ _ same
          obtain ⟨rfl, behind⟩ := ih bs x y (by simpa using rest)
          exact ⟨rfl, behind⟩

theorem intercalate_cons (separator t : List Char) (ts : List (List Char)) :
    separator.intercalate (t :: ts) = t ++ ts.flatMap (separator ++ ·) := by
  induction ts generalizing t with
  | nil => simp
  | cons u ts ih => simp [ih]

/-- So can a list whose items stand with a separator between them, if the separator too begins with
another character than the one that closes the list. -/
theorem SelfDelimiting.separated {stop c : Char} {separator : List Char}
    (tells : SelfDelimiting write) (avoids : Avoids write stop) (differs : c ≠ stop) :
    SelfDelimiting fun as : List α =>
      (c :: separator).intercalate (as.map write) ++ [stop] := by
  have later : SelfDelimiting fun as : List α =>
      as.flatMap (fun a => c :: separator ++ write a ++ []) ++ [stop] :=
    (tells.between (c :: separator) []).list fun a => ⟨c, _, rfl, differs⟩
  intro as bs x y same
  cases as with
  | nil =>
      cases bs with
      | nil => exact ⟨rfl, (List.cons.inj same).2⟩
      | cons b bs =>
          obtain ⟨d, ds, written, other⟩ := avoids b
          simp only [List.map_cons, intercalate_cons, written] at same
          exact absurd (List.cons.inj same).1.symm other
  | cons a as =>
      cases bs with
      | nil =>
          obtain ⟨d, ds, written, other⟩ := avoids a
          simp only [List.map_cons, intercalate_cons, written] at same
          exact absurd (List.cons.inj same).1 other
      | cons b bs =>
          simp only [List.map_cons, intercalate_cons, List.append_assoc] at same
          obtain ⟨rfl, rest⟩ := tells a b _ _ same
          obtain ⟨rfl, behind⟩ := later as bs x y (by simpa [List.flatMap_map] using rest)
          exact ⟨rfl, behind⟩

end

/-! ## Hexadecimal digits -/

/-- The hexadecimal digits of a number are read back as that number. -/
theorem foldlM_toDigits_sixteen (n : Nat) :
    (Nat.toDigits 16 n).foldlM (fun n c => (digitIn? 16 c).map (16 * n + ·)) 0 = some n := by
  have digit : ∀ d < 16, digitIn? 16 (Nat.digitChar d) = some d := by decide
  -- The last digit is the remainder by sixteen, those before it are the digits of the quotient.
  induction n using Nat.strongRecOn with
  | ind n ih =>
      rcases Nat.lt_or_ge n 16 with small | large
      · rw [Nat.toDigits_of_lt_base small]
        simp [digit n small]
      · have fewer : n / 16 < n := Nat.div_lt_self (by omega) (by decide)
        have last : n % 16 < 16 := Nat.mod_lt n (by decide)
        rw [Nat.toDigits_of_base_le (by decide) large, List.foldlM_append, ih _ fewer]
        simp [digit _ last, Nat.div_add_mod]

theorem toDigits_sixteen_inj {n k : Nat} (same : Nat.toDigits 16 n = Nat.toDigits 16 k) :
    n = k := by
  have read := foldlM_toDigits_sixteen n
  rw [same, foldlM_toDigits_sixteen k] at read
  exact (Option.some.inj read).symm

theorem mem_toDigits_sixteen {n : Nat} {c : Char} (here : c ∈ Nat.toDigits 16 n) :
    ∃ d < 16, c = Nat.digitChar d := by
  induction n using Nat.strongRecOn with
  | ind n ih =>
      rcases Nat.lt_or_ge n 16 with small | large
      · rw [Nat.toDigits_of_lt_base small] at here
        exact ⟨n, small, List.mem_singleton.1 here⟩
      · rw [Nat.toDigits_of_base_le (by decide) large] at here
        rcases List.mem_append.1 here with front | last
        · exact ih _ (Nat.div_lt_self (by omega) (by decide)) front
        · exact ⟨n % 16, Nat.mod_lt n (by decide), List.mem_singleton.1 last⟩

theorem brace_not_mem_toDigits (n : Nat) : '\x7d' ∉ Nat.toDigits 16 n := by
  intro here
  obtain ⟨d, small, same⟩ := mem_toDigits_sixteen here
  have other : ∀ d < 16, '\x7d' ≠ Nat.digitChar d := by decide
  exact other d small same

/-! ## Escapes -/

/-- The characters with an escape of their own, and the letter of that escape. -/
def shortEscapes : List (Char × Char) :=
  [('"', '"'), ('\\', '\\'), ('\n', 'n'), ('\r', 'r'), ('\t', 't'), ('\x00', '0')]

/-- The three forms in which a character may stand inside quotation marks. -/
inductive Escaped (c : Char) : List Char → Prop where
  | plain : c ≠ '"' → c ≠ '\\' → Escaped c [c]
  | short {letter : Char} : (c, letter) ∈ shortEscapes → Escaped c ['\\', letter]
  | code : Escaped c ('\\' :: 'u' :: '\x7b' :: (Nat.toDigits 16 c.toNat ++ ['\x7d']))

theorem escaped_escaped (c : Char) : Escaped c (escaped c).toList := by
  -- One case for each way to escape a character, in the order in which they are tried.
  unfold escaped
  split_ifs with quote slash newline feed tab null unshown
  · exact quote ▸ .short (by decide)
  · exact slash ▸ .short (by decide)
  · exact newline ▸ .short (by decide)
  · exact feed ▸ .short (by decide)
  · exact tab ▸ .short (by decide)
  · have same : c = '\x00' := Char.toNat_inj.1 null
    exact same ▸ .short (by decide)
  · have chars : ("\\u\x7b" ++ hexDigits c.toNat ++ "\x7d").toList
        = '\\' :: 'u' :: '\x7b' :: (Nat.toDigits 16 c.toNat ++ ['\x7d']) := by
      simp [hexDigits]
    rw [chars]
    exact .code
  · rw [Char.toString, String.toList_singleton]
    exact .plain quote slash

/-- A short escape stands for one character only. -/
theorem shortEscapes_inj : ∀ p ∈ shortEscapes, ∀ q ∈ shortEscapes, p.2 = q.2 → p.1 = q.1 := by
  decide

/-- No escape of its own is spelled with the letter of a code. -/
theorem shortEscapes_ne_code : ∀ p ∈ shortEscapes, p.2 ≠ 'u' := by decide

theorem Escaped.tells {c d : Char} {t u x y : List Char} (ofC : Escaped c t) (ofD : Escaped d u)
    (same : t ++ x = u ++ y) : c = d ∧ x = y := by
  cases ofC with
  | plain notQuote notSlash =>
      cases ofD with
      | plain _ _ => exact List.cons.inj same
      | short _ => exact absurd (List.cons.inj same).1 notSlash
      | code => exact absurd (List.cons.inj same).1 notSlash
  | short hereC =>
      cases ofD with
      | plain _ notSlash => exact absurd (List.cons.inj same).1.symm notSlash
      | short hereD =>
          obtain ⟨letter, rest⟩ := List.cons.inj (List.cons.inj same).2
          exact ⟨shortEscapes_inj _ hereC _ hereD letter, rest⟩
      | code =>
          obtain ⟨letter, _⟩ := List.cons.inj (List.cons.inj same).2
          exact absurd letter (shortEscapes_ne_code _ hereC)
  | code =>
      cases ofD with
      | plain _ notSlash => exact absurd (List.cons.inj same).1.symm notSlash
      | short hereD =>
          obtain ⟨letter, _⟩ := List.cons.inj (List.cons.inj same).2
          exact absurd letter.symm (shortEscapes_ne_code _ hereD)
      | code =>
          -- The digits end at the closing brace, which is none of them.
          simp only [List.cons_append, List.append_assoc, List.cons.injEq, true_and,
            List.nil_append] at same
          obtain ⟨digits, rest⟩ := split_at_first (brace_not_mem_toDigits _)
            (brace_not_mem_toDigits _) same
          exact ⟨Char.toNat_inj.1 (toDigits_sixteen_inj digits), rest⟩

theorem selfDelimiting_escaped : SelfDelimiting fun c => (escaped c).toList :=
  fun c d _ _ same => (escaped_escaped c).tells (escaped_escaped d) same

/-- A double quote inside quotation marks has a backslash before it. -/
theorem Escaped.avoids_quote {c : Char} {t : List Char} (form : Escaped c t) :
    ∃ d ds, t = d :: ds ∧ d ≠ '"' := by
  cases form with
  | plain notQuote _ => exact ⟨c, [], rfl, notQuote⟩
  | short _ => exact ⟨_, _, rfl, by decide⟩
  | code => exact ⟨_, _, rfl, by decide⟩

theorem escaped_avoids_quote : Avoids (fun c => (escaped c).toList) '"' :=
  fun c => (escaped_escaped c).avoids_quote

/-! ## Quoted texts -/

theorem toList_quoted (s : String) :
    (quoted s).toList = ['"'] ++ (s.toList.flatMap (fun c => (escaped c).toList) ++ ['"']) := by
  simp [quoted, List.flatMap, Function.comp_def]

/-- From what begins with a quoted text it can be told what was quoted, and what follows it. -/
theorem selfDelimiting_quoted : SelfDelimiting fun s => (quoted s).toList := by
  intro s t x y same
  simp only [toList_quoted] at same
  obtain ⟨chars, rest⟩ := ((selfDelimiting_escaped.list escaped_avoids_quote).between ['"'] [])
    s.toList t.toList x y (by simpa using same)
  exact ⟨String.toList_inj.1 chars, rest⟩

end Text
end QuantumJobs

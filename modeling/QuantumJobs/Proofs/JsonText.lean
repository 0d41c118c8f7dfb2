import QuantumJobs.Proofs.JsonTokens

/-!
# JsonText — values written over lines and read back

The writer knows no limit to how deep a value is nested, the reader does.  A value that is written
is read back, its objects sorted, exactly if the reader's limit allows for its nesting; otherwise
its text is refused.
-/

namespace QuantumJobs
namespace Json

variable {rest : List Symbol}

/-! ## Values -/

mutual

/-- How deep arrays and objects are nested in a value. -/
def nesting : Json → Nat
  | .arr items => nestingOfItems items + 1
  | .obj fields => nestingOfFields fields + 1
  | _ => 0

def nestingOfItems : List Json → Nat
  | [] => 0
  | v :: rest => max v.nesting (nestingOfItems rest)

def nestingOfFields : List (String × Json) → Nat
  | [] => 0
  | (_, v) :: rest => max v.nesting (nestingOfFields rest)

end

/-- A value whose numbers are read back: its integers are held by words, and its floats are what
their own texts are read as. -/
inductive Legible : Json → Prop where
  | null : Legible .null
  | bool (b : Bool) : Legible (.bool b)
  | str (s : String) : Legible (.str s)
  | int {n : Int} : HeldByWord n → Legible (.int n)
  | float {x : Float} : ReadBack (.float x) → Legible (.float x)
  | arr {items : List Json} : (∀ v ∈ items, Legible v) → Legible (.arr items)
  | obj {fields : List (String × Json)} : (∀ f ∈ fields, Legible f.2) → Legible (.obj fields)

/-- A value's text is read back in front of a delimiter, or refused because the value is nested too
deep. -/
def ReadsBack (v : Json) : Prop :=
  ∀ (depth level : Nat) (rest : List Symbol), Delimited rest →
    readValue depth (symbols (prettyAt level v) ++ rest)
      = if v.nesting ≤ depth then .ok (v.sorted, rest) else .error .illFormed

/-- A value's text starts with a symbol that is neither blank nor a closing bracket. -/
def Opens (v : Json) : Prop :=
  ∀ level, ∃ c cs, symbols (prettyAt level v) = c :: cs ∧ isSpace c = false ∧ c ≠ some ']'

theorem nestingOfItems_le {limit : Nat} :
    ∀ {items : List Json}, nestingOfItems items ≤ limit ↔ ∀ v ∈ items, v.nesting ≤ limit
  | [] => by simp [nestingOfItems]
  | v :: items => by
      rw [nestingOfItems, Nat.max_le, nestingOfItems_le]
      simp

theorem nestingOfFields_le {limit : Nat} :
    ∀ {fields : List (String × Json)},
      nestingOfFields fields ≤ limit ↔ ∀ f ∈ fields, f.2.nesting ≤ limit
  | [] => by simp [nestingOfFields]
  | f :: fields => by
      rw [nestingOfFields, Nat.max_le, nestingOfFields_le]
      simp

/-- An array is nested one deeper than its items. -/
theorem nesting_arr_le {items : List Json} {limit : Nat} :
    (arr items).nesting ≤ limit + 1 ↔ ∀ v ∈ items, v.nesting ≤ limit := by
  show nestingOfItems items + 1 ≤ limit + 1 ↔ _
  rw [Nat.add_le_add_iff_right, nestingOfItems_le]

/-- An object is nested one deeper than its fields. -/
theorem nesting_obj_le {fields : List (String × Json)} {limit : Nat} :
    (obj fields).nesting ≤ limit + 1 ↔ ∀ f ∈ fields, f.2.nesting ≤ limit := by
  show nestingOfFields fields + 1 ≤ limit + 1 ↔ _
  rw [Nat.add_le_add_iff_right, nestingOfFields_le]

/-! ## Scalars -/

def isNumber : Json → Bool
  | .int _ | .float _ => true
  | _ => false

theorem delimited_nil : Delimited [] := by
  intro c here
  cases here

theorem readWord_ok {v w : Json} {left : List Symbol} :
    ∀ {letters : List Char} {cs : List Symbol}, readWord v letters cs = .ok (w, left) → w = v
  | [], cs, read => by
      cases read
      rfl
  | _ :: _, [], read => by cases read
  | letter :: letters, c :: cs, read => by
      unfold readWord at read
      split at read
      · exact readWord_ok read
      · cases read

/-- A text that is read as a number starts with a minus sign or a digit. -/
theorem number_start {cs left : List Symbol} {v : Json} (number : v.isNumber = true)
    (read : readValue 0 cs = .ok (v, left)) :
    (∃ cs', cs = some '-' :: cs' ∧ readNumber true cs' = .ok (v, left)) ∨
      ∃ c cs', cs = c :: cs' ∧ isDigit c = true ∧ readNumber false cs = .ok (v, left) := by
  cases cs with
  | nil => cases read
  | cons c cs =>
      unfold readValue at read
      by_cases quote : c = some '"'
      · subst quote
        cases string : readString cs with
        | error _ => simp [string, Except.map] at read
        | ok found =>
            simp only [string, Except.map, if_true] at read
            cases read
            cases number
      -- Words are no numbers, and brackets are refused at this depth.
      have noWord : ∀ {w : Json} {letters : List Char}, w.isNumber = false →
          readWord w letters cs ≠ .ok (v, left) := by
        intro w letters other word
        rw [readWord_ok word, other] at number
        cases number
      split at read
      · contradiction
      split at read
      · cases read
      split at read
      · cases read
      split at read
      · exact absurd read (noWord rfl)
      split at read
      · exact absurd read (noWord rfl)
      split at read
      · exact absurd read (noWord rfl)
      split at read
      · rename_i minus
        subst minus
        exact .inl ⟨cs, rfl, read⟩
      split at read
      · rename_i digit
        exact .inr ⟨c, cs, rfl, digit, read⟩
      · cases read

theorem reads_number {v : Json} (number : v.isNumber = true) (back : ReadBack v) :
    ReadsBack v ∧ Opens v := by
  have text : ∀ level, prettyAt level v = scalarText v := by
    intro level
    cases v with
    | int _ | float _ => rfl
    | _ => cases number
  have flat : v.nesting = 0 ∧ v.sorted = v := by
    cases v with
    | int _ | float _ => exact ⟨rfl, rfl⟩
    | _ => cases number
  obtain ⟨zero, same⟩ := flat
  unfold ReadsBack Opens
  simp only [text, zero, same, Nat.zero_le, if_true]
  rcases number_start number back with ⟨cs, minus, read⟩ | ⟨c, cs, front, digit, read⟩
  · rw [minus]
    refine ⟨?_, fun _ => ⟨_, cs, rfl, rfl, by decide⟩⟩
    intro depth level rest delimited
    rw [List.cons_append, readValue_minus]
    exact readNumber_append delimited read
  · rw [front] at read ⊢
    refine ⟨?_, fun _ => ⟨c, cs, rfl, ?_, ?_⟩⟩
    · intro depth level rest delimited
      rw [List.cons_append, readValue_digit digit]
      exact readNumber_append delimited read
    · cases blank : isSpace c with
      | false => rfl
      | true =>
          simp only [isSpace, Bool.or_eq_true, decide_eq_true_eq] at blank
          rcases blank with ((rfl | rfl) | rfl) | rfl <;> cases digit
    · rintro rfl
      cases digit

/-- A word is read back by its letters. -/
theorem reads_word {v : Json} {word : String} {first : Char} {letters : List Char}
    (text : ∀ level, prettyAt level v = word) (spelled : symbols word = (first :: letters).map some)
    (flat : v.nesting = 0 ∧ v.sorted = v) (opens : isSpace (some first) = false ∧ first ≠ ']')
    (read : ∀ depth rest, readValue depth (some first :: (letters.map some ++ rest)) = .ok (v, rest)) :
    ReadsBack v ∧ Opens v := by
  obtain ⟨zero, same⟩ := flat
  obtain ⟨notBlank, notClosing⟩ := opens
  constructor
  · intro depth level rest _
    rw [text, spelled, zero, same, if_pos (Nat.zero_le depth)]
    exact read depth rest
  · intro level
    rw [text, spelled]
    exact ⟨_, _, rfl, notBlank, by simpa using notClosing⟩

theorem reads_str (s : String) : ReadsBack (.str s) ∧ Opens (.str s) := by
  have text : ∀ level, symbols (prettyAt level (.str s)) = some '"' :: stringTail s := fun _ =>
    symbols_stringText s
  constructor
  · intro depth level rest _
    rw [text, List.cons_append]
    unfold readValue
    simp [readString_stringTail, Except.map, nesting, sorted]
  · intro level
    exact ⟨_, _, text level, rfl, by decide⟩

/-! ## Lines -/

/-- The symbols of a line break and the indentation of a level. -/
def gap (level : Nat) : List Symbol := symbols (newline level)

/-- What follows the first of several parts that stand on lines of their own. -/
def lines (level : Nat) (closing : Symbol) : List String → List Symbol → List Symbol
  | [], rest => gap level ++ closing :: rest
  | part :: parts, rest =>
      some ',' :: (gap (level + 1) ++ (symbols part ++ lines level closing parts rest))

theorem symbols_intercalate (separator : String) :
    ∀ (part : String) (parts : List String),
      symbols (separator.intercalate (part :: parts))
        = symbols part ++ parts.flatMap fun p => symbols separator ++ symbols p := by
  intro part parts
  induction parts generalizing part with
  | nil => simp
  | cons next parts ih =>
      rw [String.intercalate_cons_cons, symbols_append, symbols_append, ih, List.flatMap_cons]
      simp only [List.append_assoc]

/-- The text of an array or object with parts, brackets included. -/
theorem symbols_spread (level : Nat) (opening closing : String) (part : String)
    (parts : List String) {close : Symbol} (closes : symbols closing = [close])
    (rest : List Symbol) :
    symbols (spread level opening closing (part :: parts)) ++ rest
      = symbols opening ++ (gap (level + 1) ++ (symbols part ++ lines level close parts rest)) := by
  have comma : symbols ("," ++ newline (level + 1)) = some ',' :: gap (level + 1) := by
    rw [symbols_append]
    rfl
  have follow : (parts.flatMap fun p => symbols ("," ++ newline (level + 1)) ++ symbols p)
      ++ (gap level ++ close :: rest) = lines level close parts rest := by
    induction parts with
    | nil => rfl
    | cons p parts ih =>
        rw [List.flatMap_cons, lines, ← ih, comma]
        simp only [List.append_assoc, List.cons_append]
  show symbols (opening ++ newline (level + 1)
    ++ ("," ++ newline (level + 1)).intercalate (part :: parts) ++ newline level ++ closing)
      ++ rest = _
  rw [← follow]
  simp only [symbols_append, symbols_intercalate, closes, gap, List.append_assoc, List.cons_append,
    List.nil_append]

theorem gap_eq (level : Nat) :
    gap level = some '\n' :: List.replicate (2 * level) (some ' ') := by
  simp [gap, symbols, newline]

theorem skipSpace_gap (level : Nat) (cs : List Symbol) :
    skipSpace (gap level ++ cs) = skipSpace cs := by
  have blank : ∀ c ∈ gap level, isSpace c = true := by
    intro c here
    rw [gap_eq] at here
    rcases List.mem_cons.1 here with rfl | space
    · rfl
    · rw [List.eq_of_mem_replicate space]
      rfl
  unfold skipSpace
  rw [List.dropWhile_append_of_pos blank]

theorem skipSpace_of_not {c : Symbol} (cs : List Symbol) (notBlank : isSpace c = false) :
    skipSpace (c :: cs) = c :: cs := by
  unfold skipSpace
  rw [List.dropWhile_cons_of_neg (by simp [notBlank])]

theorem delimited_lines (level : Nat) (closing : Symbol) (parts : List String)
    (rest : List Symbol) : Delimited (lines level closing parts rest) := by
  intro c first
  cases parts with
  | nil =>
      rw [lines, gap_eq] at first
      cases first
      decide
  | cons part parts =>
      cases first
      decide

theorem length_le_lines (level : Nat) (closing : Symbol) (rest : List Symbol) :
    ∀ parts : List String, parts.length ≤ (lines level closing parts rest).length
  | [] => Nat.zero_le _
  | part :: parts => by
      have shorter := length_le_lines level closing rest parts
      simp only [lines, List.length_cons, List.length_append]
      omega

/-! ## Arrays -/

theorem length_prettyItems (level : Nat) :
    ∀ items : List Json, (prettyItems level items).length = items.length
  | [] => rfl
  | _ :: items => congrArg (· + 1) (length_prettyItems level items)

theorem readItems_lines (depth level : Nat) {items : List Json} :
    ∀ {v : Json} {fuel : Nat} {acc : List Json} (rest : List Symbol), items.length < fuel →
      (∀ w ∈ v :: items, ReadsBack w ∧ Opens w) →
        readItems (readValue depth) fuel acc
            (symbols (prettyAt (level + 1) v)
              ++ lines level (some ']') (prettyItems (level + 1) items) rest)
          = if nestingOfItems (v :: items) ≤ depth then
              .ok ((sortedItems (v :: items)).reverse ++ acc, rest)
            else .error .illFormed := by
  -- The first item has been reached; the induction is on the lines of those behind it.
  induction items with
  | nil =>
      intro v fuel acc rest enough reads
      obtain ⟨fuel, rfl⟩ := Nat.exists_eq_succ_of_ne_zero (Nat.ne_of_gt (Nat.zero_lt_of_lt enough))
      have first := (reads v List.mem_cons_self).1 depth (level + 1)
        (lines level (some ']') [] rest) (delimited_lines _ _ _ _)
      have closed : skipSpace (lines level (some ']') [] rest) = some ']' :: rest := by
        rw [lines, skipSpace_gap, skipSpace_of_not _ (by decide)]
      unfold readItems
      simp only [prettyItems, first, nestingOfItems, Nat.max_zero]
      by_cases fits : v.nesting ≤ depth
      · simp [fits, closed, sortedItems, Bind.bind, Except.bind]
      · simp [fits, Bind.bind, Except.bind]
  | cons next items ih =>
      intro v fuel acc rest enough reads
      obtain ⟨fuel, rfl⟩ := Nat.exists_eq_succ_of_ne_zero (Nat.ne_of_gt (Nat.zero_lt_of_lt enough))
      have first := (reads v List.mem_cons_self).1 depth (level + 1)
        (lines level (some ']') (prettyItems (level + 1) (next :: items)) rest)
        (delimited_lines _ _ _ _)
      have later := @ih next fuel (v.sorted :: acc) rest (by simpa using enough) fun w here =>
        reads w (List.mem_cons_of_mem v here)
      -- Behind the comma stands the next item, and no closing bracket.
      obtain ⟨c, cs, start, notBlank, notClosing⟩ :=
        (reads next (List.mem_cons_of_mem v List.mem_cons_self)).2 (level + 1)
      have comma : skipSpace (lines level (some ']') (prettyItems (level + 1) (next :: items)) rest)
          = some ',' :: (gap (level + 1) ++ (symbols (prettyAt (level + 1) next)
            ++ lines level (some ']') (prettyItems (level + 1) items) rest)) := by
        rw [prettyItems, lines, skipSpace_of_not _ (by decide)]
      have behind : skipSpace (gap (level + 1) ++ (symbols (prettyAt (level + 1) next)
          ++ lines level (some ']') (prettyItems (level + 1) items) rest))
            = symbols (prettyAt (level + 1) next)
              ++ lines level (some ']') (prettyItems (level + 1) items) rest := by
        rw [skipSpace_gap, start, List.cons_append, skipSpace_of_not _ notBlank]
      unfold readItems
      rw [first]
      by_cases fits : v.nesting ≤ depth
      · have both : nestingOfItems (v :: next :: items) ≤ depth
            ↔ nestingOfItems (next :: items) ≤ depth := by
          rw [nestingOfItems, Nat.max_le]
          exact and_iff_right fits
        simp only [fits, if_true, Bind.bind, Except.bind, comma, behind, both]
        rw [start] at later ⊢
        split
        · cases ‹_›
        · rename_i same
          cases same
          exact absurd rfl notClosing
        · rw [later]
          simp [sortedItems]
      · have deep : ¬ nestingOfItems (v :: next :: items) ≤ depth := by
          rw [nestingOfItems, Nat.max_le]
          exact fun both => fits both.1
        simp [fits, deep, Bind.bind, Except.bind]

theorem readArray_lines (depth level : Nat) {v : Json} {items : List Json}
    (reads : ∀ w ∈ v :: items, ReadsBack w ∧ Opens w) (rest : List Symbol) :
    readArray (readValue depth) (gap (level + 1) ++ (symbols (prettyAt (level + 1) v)
        ++ lines level (some ']') (prettyItems (level + 1) items) rest))
      = if nestingOfItems (v :: items) ≤ depth then .ok (.arr (sortedItems (v :: items)), rest)
        else .error .illFormed := by
  obtain ⟨c, cs, start, notBlank, notClosing⟩ := (reads v List.mem_cons_self).2 (level + 1)
  have enough : items.length
      < ((symbols (prettyAt (level + 1) v)
          ++ lines level (some ']') (prettyItems (level + 1) items) rest)).length + 1 := by
    have parts := length_le_lines level (some ']') rest (prettyItems (level + 1) items)
    rw [length_prettyItems] at parts
    rw [List.length_append]
    omega
  have read := @readItems_lines depth level items v _ [] rest enough reads
  unfold readArray
  rw [skipSpace_gap]
  rw [start] at read ⊢
  rw [List.cons_append] at read ⊢
  rw [skipSpace_of_not _ notBlank]
  split
  · cases ‹_›
  · rename_i same
    cases same
    exact absurd rfl notClosing
  · rw [read]
    by_cases fits : nestingOfItems (v :: items) ≤ depth
    · simp [fits, Except.map]
    · simp [fits, Except.map]

theorem reads_arr {items : List Json} (reads : ∀ v ∈ items, ReadsBack v ∧ Opens v) :
    ReadsBack (.arr items) ∧ Opens (.arr items) := by
  cases items with
  | nil =>
      have text : ∀ level, symbols (prettyAt level (.arr [])) = [some '[', some ']'] := by
        intro level
        show symbols ("[" ++ "]") = _
        rw [symbols_append]
        rfl
      constructor
      · intro depth level rest _
        rw [text]
        cases depth with
        | zero => rfl
        | succ depth => rfl
      · intro level
        exact ⟨some '[', [some ']'], text level, rfl, by decide⟩
  | cons v items =>
      have closes : symbols "]" = [some ']'] := rfl
      have opens : symbols "[" = [some '['] := rfl
      constructor
      · intro depth level rest _
        show readValue depth (symbols (spread level "[" "]" (prettyItems (level + 1) (v :: items)))
          ++ rest) = _
        rw [prettyItems, symbols_spread level "[" "]" _ _ closes, opens]
        cases depth with
        | zero => rfl
        | succ depth =>
            have read := readArray_lines depth level reads rest
            show readArray (readValue depth) _ = if nestingOfItems (v :: items) + 1 ≤ _ then _ else _
            simp only [Nat.add_le_add_iff_right]
            exact read
      · intro level
        have text := symbols_spread level "[" "]" (prettyAt (level + 1) v)
          (prettyItems (level + 1) items) closes []
        rw [List.append_nil, opens] at text
        exact ⟨some '[', _, text, rfl, by decide⟩

/-! ## Objects -/

theorem length_prettyFields (level : Nat) :
    ∀ fields : List (String × Json), (prettyFields level fields).length = fields.length
  | [] => rfl
  | _ :: fields => congrArg (· + 1) (length_prettyFields level fields)

/-- What stands for a field after the opening quote of its key. -/
def fieldTail (level : Nat) (f : String × Json) : List Symbol :=
  stringTail f.1 ++ some ':' :: some ' ' :: symbols (prettyAt level f.2)

theorem symbols_field (level : Nat) (f : String × Json) :
    symbols (stringText f.1 ++ ": " ++ prettyAt level f.2) = some '"' :: fieldTail level f := by
  have colon : symbols ": " = [some ':', some ' '] := rfl
  rw [symbols_append, symbols_append, symbols_stringText, colon]
  simp [fieldTail]

theorem readField_fieldTail {f : String × Json} (reads : ReadsBack f.2 ∧ Opens f.2)
    (depth level : Nat) {rest : List Symbol} (delimited : Delimited rest) :
    readField (readValue depth) (fieldTail level f ++ rest)
      = if f.2.nesting ≤ depth then .ok ((f.1, f.2.sorted), rest) else .error .illFormed := by
  obtain ⟨c, cs, start, notBlank, _⟩ := reads.2 level
  have value := reads.1 depth level rest delimited
  have tail : fieldTail level f ++ rest
      = stringTail f.1 ++ (some ':' :: some ' ' :: (symbols (prettyAt level f.2) ++ rest)) := by
    simp [fieldTail]
  have colon : skipSpace (some ':' :: some ' ' :: (symbols (prettyAt level f.2) ++ rest))
      = some ':' :: some ' ' :: (symbols (prettyAt level f.2) ++ rest) :=
    skipSpace_of_not _ rfl
  have blank : skipSpace (some ' ' :: (symbols (prettyAt level f.2) ++ rest))
      = symbols (prettyAt level f.2) ++ rest := by
    rw [start, List.cons_append]
    show skipSpace (c :: (cs ++ rest)) = _
    rw [skipSpace_of_not _ notBlank]
  unfold readField
  rw [tail, readString_stringTail]
  simp only [Bind.bind, Except.bind, colon, blank, value]
  by_cases fits : f.2.nesting ≤ depth
  · simp [fits]
  · simp [fits]

theorem readFields_lines (depth level : Nat) {fields : List (String × Json)} :
    ∀ {f : String × Json} {fuel : Nat} {acc : List (String × Json)} (rest : List Symbol),
      fields.length < fuel → (∀ g ∈ f :: fields, ReadsBack g.2 ∧ Opens g.2) →
        readFields (readValue depth) fuel acc
            (fieldTail (level + 1) f
              ++ lines level (some '}') (prettyFields (level + 1) fields) rest)
          = if nestingOfFields (f :: fields) ≤ depth then
              .ok ((sortedFields (f :: fields)).reverse ++ acc, rest)
            else .error .illFormed := by
  -- As for items, but a key is read before each value.
  induction fields with
  | nil =>
      intro f fuel acc rest enough reads
      obtain ⟨fuel, rfl⟩ := Nat.exists_eq_succ_of_ne_zero (Nat.ne_of_gt (Nat.zero_lt_of_lt enough))
      have first := readField_fieldTail (reads f List.mem_cons_self) depth (level + 1)
        (delimited_lines level (some '}') [] rest)
      have closed : skipSpace (lines level (some '}') [] rest) = some '}' :: rest := by
        rw [lines, skipSpace_gap, skipSpace_of_not _ (by decide)]
      unfold readFields
      simp only [prettyFields, first, nestingOfFields, Nat.max_zero]
      by_cases fits : f.2.nesting ≤ depth
      · simp [fits, closed, sortedFields, Bind.bind, Except.bind]
      · simp [fits, Bind.bind, Except.bind]
  | cons next fields ih =>
      intro f fuel acc rest enough reads
      obtain ⟨fuel, rfl⟩ := Nat.exists_eq_succ_of_ne_zero (Nat.ne_of_gt (Nat.zero_lt_of_lt enough))
      have first := readField_fieldTail (reads f List.mem_cons_self) depth (level + 1)
        (delimited_lines level (some '}') (prettyFields (level + 1) (next :: fields)) rest)
      have later := @ih next fuel ((f.1, f.2.sorted) :: acc) rest (by simpa using enough)
        fun g here => reads g (List.mem_cons_of_mem f here)
      have comma : skipSpace (lines level (some '}') (prettyFields (level + 1) (next :: fields)) rest)
          = some ',' :: (gap (level + 1) ++ some '"' :: (fieldTail (level + 1) next
            ++ lines level (some '}') (prettyFields (level + 1) fields) rest)) := by
        rw [prettyFields, lines, symbols_field, skipSpace_of_not _ (by decide), List.cons_append]
      -- Behind the comma stands the quote of the next key.
      have behind : skipSpace (gap (level + 1) ++ some '"' :: (fieldTail (level + 1) next
          ++ lines level (some '}') (prettyFields (level + 1) fields) rest))
            = some '"' :: (fieldTail (level + 1) next
              ++ lines level (some '}') (prettyFields (level + 1) fields) rest) := by
        rw [skipSpace_gap, skipSpace_of_not _ (by decide)]
      unfold readFields
      rw [first]
      by_cases fits : f.2.nesting ≤ depth
      · have both : nestingOfFields (f :: next :: fields) ≤ depth
            ↔ nestingOfFields (next :: fields) ≤ depth := by
          rw [nestingOfFields, Nat.max_le]
          exact and_iff_right fits
        simp only [fits, if_true, Bind.bind, Except.bind, comma, behind, both, later]
        simp [sortedFields]
      · have deep : ¬ nestingOfFields (f :: next :: fields) ≤ depth := by
          rw [nestingOfFields, Nat.max_le]
          exact fun both => fits both.1
        simp [fits, deep, Bind.bind, Except.bind]

theorem readObject_lines (depth level : Nat) {f : String × Json} {fields : List (String × Json)}
    (reads : ∀ g ∈ f :: fields, ReadsBack g.2 ∧ Opens g.2) (rest : List Symbol) :
    readObject (readValue depth) (gap (level + 1) ++ some '"' :: (fieldTail (level + 1) f
        ++ lines level (some '}') (prettyFields (level + 1) fields) rest))
      = if nestingOfFields (f :: fields) ≤ depth then .ok (ofFields (sortedFields (f :: fields)), rest)
        else .error .illFormed := by
  have enough : fields.length
      < (fieldTail (level + 1) f
          ++ lines level (some '}') (prettyFields (level + 1) fields) rest).length + 1 := by
    have parts := length_le_lines level (some '}') rest (prettyFields (level + 1) fields)
    rw [length_prettyFields] at parts
    rw [List.length_append]
    omega
  have read := @readFields_lines depth level fields f _ [] rest enough reads
  unfold readObject
  rw [skipSpace_gap, skipSpace_of_not _ (by decide)]
  simp only [read]
  by_cases fits : nestingOfFields (f :: fields) ≤ depth
  · simp [fits, Except.map]
  · simp [fits, Except.map]

theorem reads_obj {fields : List (String × Json)}
    (reads : ∀ f ∈ fields, ReadsBack f.2 ∧ Opens f.2) :
    ReadsBack (.obj fields) ∧ Opens (.obj fields) := by
  cases fields with
  | nil =>
      have text : ∀ level, symbols (prettyAt level (.obj [])) = [some '{', some '}'] := by
        intro level
        show symbols ("\x7b" ++ "\x7d") = _
        rw [symbols_append]
        rfl
      constructor
      · intro depth level rest _
        rw [text]
        cases depth with
        | zero => rfl
        | succ depth => rfl
      · intro level
        exact ⟨some '{', [some '}'], text level, rfl, by decide⟩
  | cons f fields =>
      have closes : symbols "\x7d" = [some '}'] := rfl
      have opens : symbols "\x7b" = [some '{'] := rfl
      have text : ∀ level rest, symbols (prettyAt level (.obj (f :: fields))) ++ rest
          = some '{' :: (gap (level + 1) ++ some '"' :: (fieldTail (level + 1) f
            ++ lines level (some '}') (prettyFields (level + 1) fields) rest)) := by
        intro level rest
        have spread := symbols_spread level "\x7b" "\x7d"
          (stringText f.1 ++ ": " ++ prettyAt (level + 1) f.2) (prettyFields (level + 1) fields)
          closes rest
        rw [symbols_field, opens] at spread
        exact spread
      constructor
      · intro depth level rest _
        rw [text]
        cases depth with
        | zero => rfl
        | succ depth =>
            have read := readObject_lines depth level reads rest
            show readObject (readValue depth) _
              = if nestingOfFields (f :: fields) + 1 ≤ _ then _ else _
            simp only [Nat.add_le_add_iff_right]
            exact read
      · intro level
        have whole := text level []
        rw [List.append_nil] at whole
        exact ⟨some '{', _, whole, rfl, by decide⟩

/-! ## Whole texts -/

theorem Legible.reads {v : Json} (legible : v.Legible) : ReadsBack v ∧ Opens v := by
  induction legible with
  | null =>
      refine @reads_word _ "null" _ _ (fun _ => rfl) rfl ⟨rfl, rfl⟩ (by decide) ?_
      intro depth rest
      unfold readValue
      rfl
  | bool b =>
      cases b with
      | false =>
          refine @reads_word _ "false" _ _ (fun _ => rfl) rfl ⟨rfl, rfl⟩ (by decide) ?_
          intro depth rest
          unfold readValue
          rfl
      | true =>
          refine @reads_word _ "true" _ _ (fun _ => rfl) rfl ⟨rfl, rfl⟩ (by decide) ?_
          intro depth rest
          unfold readValue
          rfl
  | str s => exact reads_str s
  | int held => exact reads_number rfl (readBack_int held)
  | float back => exact reads_number rfl back
  | arr _ ih => exact reads_arr ih
  | obj _ ih => exact reads_obj ih

/-- The text of a legible value, spread over lines, is read back as the value with its objects
sorted if the value is nested no deeper than the reader goes, and is ill-formed to the reader if it
is nested deeper. -/
theorem ofText_pretty {v : Json} (legible : v.Legible) :
    ofText v.pretty = if v.nesting ≤ maxDepth then .ok v.sorted else .error .illFormed := by
  obtain ⟨reads, opens⟩ := legible.reads
  obtain ⟨c, cs, start, notBlank, _⟩ := opens 0
  have read := reads maxDepth 0 [] delimited_nil
  rw [List.append_nil] at read
  have first : skipSpace (symbols v.pretty) = symbols v.pretty := by
    show skipSpace (symbols (prettyAt 0 v)) = symbols (prettyAt 0 v)
    rw [start, skipSpace_of_not _ notBlank]
  show ofSymbols (symbols v.pretty) = _
  unfold ofSymbols
  rw [first]
  show (readValue maxDepth (symbols (prettyAt 0 v)) >>= _) = _
  rw [read]
  by_cases fits : v.nesting ≤ maxDepth
  · simp [fits, Bind.bind, Except.bind, skipSpace]
  · simp [fits, Bind.bind, Except.bind]

end Json
end QuantumJobs

import QuantumJobs.Config
import QuantumJobs.Proofs.DictLookup
import QuantumJobs.Proofs.QuotedText

/-!
# RedactedText — what a shown configuration tells

A configuration is shown as the one in which the same fixed text stands for every sensitive value.
Nothing else is hidden, and quoting loses nothing.  So two configurations look alike, on one line or
on many, if and only if they have the same keys and the same values where these are not sensitive.
-/

namespace QuantumJobs

namespace Text

theorem occursIn_iff {needle cs : List Char} : occursIn needle cs = true ↔ needle <:+: cs := by
  induction cs with
  | nil => simp [occursIn]
  | cons c rest ih => simp [occursIn, ih, List.infix_cons_iff]

end Text

namespace Dict

theorem get?_map {α β : Type} (f : String → α → β) (d : Dict α) (key : String) :
    (d.map f).get? key = (d.get? key).map (f key) := by
  obtain ⟨entries, _⟩ := d
  show Entries.find? (entries.map _) key = (Entries.find? entries key).map (f key)
  induction entries with
  | nil => rfl
  | cons e rest ih =>
      by_cases here : e.1 = key
      · simp [Entries.find?, here]
      · simp [Entries.find?, here, ih (List.Pairwise.of_cons ‹_›)]

end Dict

namespace Config

/-! ## Sensitive keys -/

/-- Among the letters of the key, taken in lower case, one of four words occurs. -/
def Sensitive (key : String) : Prop :=
  ∃ word ∈ ["secret", "token", "password", "api_key"],
    word.toList <:+: (Text.asciiLower key).toList

theorem isSensitive_iff {key : String} : isSensitive key = true ↔ Sensitive key := by
  simp only [isSensitive, List.any_eq_true, Text.occursIn_iff]
  rfl

/-- The same keys, and the same values under those that are not sensitive. -/
structure Alike (a b : Config) : Prop where
  keys : ∀ key, a.contains key = b.contains key
  values : ∀ key, ¬ Sensitive key → a.get? key = b.get? key

/-! ## The configuration that is shown -/

/-- The configuration with the same fixed text for every sensitive value. -/
def masked (c : Config) : Config :=
  c.map fun key value => if isSensitive key then redacted else value

variable {a b c : Config} {key : String}

theorem get?_masked_of_sensitive (sensitive : Sensitive key) :
    c.masked.get? key = (c.get? key).map fun _ => redacted := by
  have hidden := isSensitive_iff.2 sensitive
  simp only [masked, Dict.get?_map, hidden, if_true]

theorem get?_masked_of_not_sensitive (shown : ¬ Sensitive key) :
    c.masked.get? key = c.get? key := by
  have kept := mt isSensitive_iff.1 shown
  simp [masked, Dict.get?_map, kept]

theorem contains_masked (c : Config) (key : String) : c.masked.contains key = c.contains key := by
  rw [Dict.contains, masked, Dict.get?_map, Option.isSome_map]
  rfl

/-- Of a sensitive entry the masked configuration keeps that it is there, and nothing else. -/
theorem masked_eq_iff : a.masked = b.masked ↔ Alike a b := by
  constructor
  · intro same
    refine ⟨?_, ?_⟩
    · intro key
      rw [← contains_masked a, ← contains_masked b, same]
    · intro key shown
      rw [← get?_masked_of_not_sensitive shown, same, get?_masked_of_not_sensitive shown]
  · intro alike
    apply Dict.ext_get?
    intro key
    by_cases sensitive : Sensitive key
    · -- Under a sensitive key both show the same text, or nothing where the key is absent.
      have both : (a.get? key).isSome = (b.get? key).isSome := alike.keys key
      have presence : ∀ value : Option String,
          (value.map fun _ => redacted) = if value.isSome then some redacted else none := by
        intro value
        cases value <;> rfl
      rw [get?_masked_of_sensitive sensitive, get?_masked_of_sensitive sensitive, presence,
        presence, both]
    · rw [get?_masked_of_not_sensitive sensitive, get?_masked_of_not_sensitive sensitive]
      exact alike.values key sensitive

/-! ## The two layouts -/

/-- An entry as it is shown, with nothing hidden. -/
def written (e : String × String) : String := Text.quoted e.1 ++ ": " ++ Text.quoted e.2

theorem map_shownEntry (c : Config) : c.entries.map shownEntry = c.masked.entries.map written := by
  simp [masked, Dict.map, written, shownEntry, shownValue, Function.comp_def]

theorem selfDelimiting_written : Text.SelfDelimiting fun e => (written e).toList := by
  intro e e' x y same
  refine Text.selfDelimiting_quoted.pair Text.selfDelimiting_quoted (": ").toList e e' x y ?_
  simpa [written] using same

theorem written_avoids_brace : Text.Avoids (fun e => (written e).toList) '\x7d' := by
  intro e
  simp only [written, String.toList_append, Text.toList_quoted, List.append_assoc]
  exact ⟨'"', _, rfl, by decide⟩

/-- Entries between braces, with a comma between two of them. -/
def oneLine (es : List (String × String)) : String :=
  "\x7b" ++ ", ".intercalate (es.map written) ++ "\x7d"

theorem oneLine_inj {es es' : List (String × String)} (same : oneLine es = oneLine es') :
    es = es' := by
  have comma : ',' ≠ '\x7d' := by decide
  have tells : Text.SelfDelimiting fun es : List (String × String) => ['\x7b'] ++
      ([',', ' '].intercalate (es.map fun e => (written e).toList) ++ ['\x7d']) ++ [] :=
    (selfDelimiting_written.separated written_avoids_brace comma).between ['\x7b'] []
  refine (tells es es' [] [] ?_).1
  have chars := congrArg String.toList same
  simpa [oneLine, String.toList_intercalate, Function.comp_def] using chars

/-- Entries on a line each, between lines with the braces; without entries the braces alone. -/
def manyLines (es : List (String × String)) : String :=
  if es.isEmpty then "\x7b\x7d"
  else "\x7b\n" ++ String.join (es.map fun e => "    " ++ written e ++ ",\n") ++ "\x7d"

theorem manyLines_inj {es es' : List (String × String)} (same : manyLines es = manyLines es') :
    es = es' := by
  have lines : Text.SelfDelimiting fun es : List (String × String) =>
      es.flatMap (fun e => ("    ").toList ++ (written e).toList ++ (",\n").toList) ++ ['\x7d'] :=
    (selfDelimiting_written.between ("    ").toList (",\n").toList).list
      fun e => ⟨' ', _, rfl, by decide⟩
  have chars := congrArg String.toList same
  -- Only the braces alone go without a line break.
  cases es with
  | nil =>
      cases es' with
      | nil => rfl
      | cons e' es' => simp [manyLines] at chars
  | cons e es =>
      cases es' with
      | nil => simp [manyLines] at chars
      | cons e' es' =>
          refine (lines (e :: es) (e' :: es') [] [] ?_).1
          simpa [manyLines, List.flatMap, Function.comp_def] using chars

theorem debugText_eq (c : Config) : debugText c = oneLine c.masked.entries := by
  rw [debugText, map_shownEntry, oneLine]

theorem debugLines_eq (c : Config) : debugLines c = manyLines c.masked.entries := by
  have shown := congrArg (List.map fun s => "    " ++ s ++ ",\n") (map_shownEntry c)
  simp only [List.map_map, Function.comp_def] at shown
  simp [debugLines, manyLines, shown, Dict.isEmpty, masked, Dict.map]

/-- A layout that tells entries apart tells masked configurations apart. -/
theorem layout_eq_iff {layout : List (String × String) → String}
    (inj : ∀ {es es'}, layout es = layout es' → es = es') :
    layout a.masked.entries = layout b.masked.entries ↔ Alike a b := by
  rw [← masked_eq_iff]
  constructor
  · exact fun same => Dict.ext (inj same)
  · intro same
    rw [same]

/-! ## What is told -/

/-- Two configurations with the same keys, and with the same values under every key that has none of
the four words in it, whatever the case of its letters, are shown as the same text on one line and
as the same text on many.  So a sensitive value makes no difference to what is shown, however long
it is and whatever it contains.  And only such two are shown as the same text: nothing but the
sensitive values is kept back. -/
theorem shown_alike_iff (a b : Config) :
    (debugText a = debugText b ↔ Alike a b) ∧ (debugLines a = debugLines b ↔ Alike a b) := by
  rw [debugText_eq, debugText_eq, debugLines_eq, debugLines_eq]
  exact ⟨layout_eq_iff oneLine_inj, layout_eq_iff manyLines_inj⟩

example :
    debugText (Dict.ofList [("Api_KEY", "a \"long\" one"), ("url", "q.test")])
      = debugText (Dict.ofList [("Api_KEY", ""), ("url", "q.test")]) := by
  decide +kernel

end Config
end QuantumJobs

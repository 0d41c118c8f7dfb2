import QuantumJobs.CommandLine.Store
import QuantumJobs.Proofs.DictLookup
import QuantumJobs.Proofs.TrimmedText

/-!
# LoadedSettings — what a configuration is loaded from

A configuration comes from a file of scalars and from assignments on the command line.  It cannot be
loaded exactly if a value of the file is no scalar or an assignment has no key.  Otherwise a key has
the value of the last assignment to it, or else that of the file unless it is null there.
-/

namespace QuantumJobs

/-! ## Splitting at a character -/

namespace Text

variable {c : Char}

theorem splitFirst?_of_not_mem {before : List Char} (absent : c ∉ before) (behind : List Char) :
    splitFirst? c (before ++ c :: behind) = some (before, behind) := by
  induction before with
  | nil => exact if_pos rfl
  | cons x before ih =>
      obtain ⟨other, later⟩ := not_or.1 (mt List.mem_cons.2 absent)
      rw [List.cons_append, splitFirst?, if_neg (Ne.symm other), ih later]
      rfl

theorem splitFirst?_eq_some_iff {cs before behind : List Char} :
    splitFirst? c cs = some (before, behind) ↔ cs = before ++ c :: behind ∧ c ∉ before := by
  constructor
  · exact splitFirst?_eq_some
  · rintro ⟨rfl, absent⟩
    exact splitFirst?_of_not_mem absent behind

theorem splitFirst?_eq_none_iff {cs : List Char} : splitFirst? c cs = none ↔ c ∉ cs := by
  constructor
  · intro unsplit here
    obtain ⟨before, behind, rfl, absent⟩ := List.eq_append_cons_of_mem here
    rw [splitFirst?_of_not_mem absent] at unsplit
    cases unsplit
  · intro absent
    cases split : splitFirst? c cs with
    | none => rfl
    | some parts =>
        obtain ⟨rfl, _⟩ := splitFirst?_eq_some split
        exact absurd (List.mem_append_right _ List.mem_cons_self) absent

end Text

namespace CommandLine

open Files (Path Tree)

/-! ## Assignments -/

/-- An argument assigns a value to a key.  The key is what stands before the first equals sign,
without white space at its ends, and is not empty; the value is all that stands behind that sign. -/
structure Assigns (arg key value : String) : Prop where
  parts : ∃ before, arg.toList = before ++ '=' :: value.toList ∧ '=' ∉ before ∧
    Text.Trims before key.toList
  named : key ≠ ""

/-- An argument has no equals sign, or nothing but white space before the first one. -/
inductive Unusable (arg : String) : Prop where
  | noSign : '=' ∉ arg.toList → Unusable arg
  | noKey {before value : List Char} : arg.toList = before ++ '=' :: value → '=' ∉ before →
      (∀ c ∈ before, Text.isBlank c = true) → Unusable arg

/-- No argument assigns anything to a key. -/
def Unassigned (args : List String) (key : String) : Prop :=
  ∀ arg ∈ args, ∀ value, ¬ Assigns arg key value

/-- The last argument that assigns anything to a key assigns this value. -/
inductive LastAssigns (key value : String) : List String → Prop where
  | here {arg : String} {rest : List String} :
      Assigns arg key value → Unassigned rest key → LastAssigns key value (arg :: rest)
  | later {arg : String} {rest : List String} :
      LastAssigns key value rest → LastAssigns key value (arg :: rest)

variable {arg key value : String} {args : List String} {c : Config}

/-! ## Reading assignments -/

theorem assigns_iff_split :
    Assigns arg key value ↔
      ∃ before, Text.splitFirst? '=' arg.toList = some (before, value.toList) ∧
        Text.trimChars before = key.toList ∧ key ≠ "" := by
  simp only [Text.splitFirst?_eq_some_iff, Text.trimChars_eq_iff]
  constructor
  · rintro ⟨⟨before, whole, absent, trims⟩, named⟩
    exact ⟨before, ⟨whole, absent⟩, trims, named⟩
  · rintro ⟨before, ⟨whole, absent⟩, trims, named⟩
    exact ⟨⟨before, whole, absent, trims⟩, named⟩

theorem unusable_iff_split :
    Unusable arg ↔
      Text.splitFirst? '=' arg.toList = none ∨
        ∃ before behind, Text.splitFirst? '=' arg.toList = some (before, behind) ∧
          Text.trimChars before = [] := by
  simp only [Text.splitFirst?_eq_none_iff, Text.splitFirst?_eq_some_iff, Text.trimChars_eq_nil]
  constructor
  · rintro (absent | ⟨whole, absent, blank⟩)
    · exact .inl absent
    · exact .inr ⟨_, _, ⟨whole, absent⟩, blank⟩
  · rintro (absent | ⟨before, behind, ⟨whole, absent⟩, blank⟩)
    · exact .noSign absent
    · exact .noKey whole absent blank

theorem readAssignment_of_key {before behind : List Char}
    (split : Text.splitFirst? '=' arg.toList = some (before, behind))
    (named : Text.trimChars before ≠ []) :
    readAssignment arg
      = .ok (String.ofList (Text.trimChars before), String.ofList behind) := by
  unfold readAssignment
  rw [split]
  exact if_neg (mt List.isEmpty_iff.1 named)

theorem readAssignment_of_unusable (unusable : Unusable arg) :
    ∃ t, readAssignment arg = .error t := by
  unfold readAssignment
  rcases unusable_iff_split.1 unusable with split | ⟨before, behind, split, blank⟩
  · rw [split]
    exact ⟨_, rfl⟩
  · rw [split]
    exact ⟨_, if_pos (List.isEmpty_iff.2 blank)⟩

theorem readAssignment_of_assigns (assigns : Assigns arg key value) :
    readAssignment arg = .ok (key, value) := by
  obtain ⟨before, split, trimmed, named⟩ := assigns_iff_split.1 assigns
  have notEmpty : Text.trimChars before ≠ [] := by
    rw [trimmed]
    exact mt String.toList_eq_nil_iff.1 named
  rw [readAssignment_of_key split notEmpty, trimmed, String.ofList_toList, String.ofList_toList]

/-- Whatever is not unusable assigns something. -/
theorem assigns_of_usable (usable : ¬ Unusable arg) : ∃ key value, Assigns arg key value := by
  cases split : Text.splitFirst? '=' arg.toList with
  | none => exact absurd (unusable_iff_split.2 (.inl split)) usable
  | some parts =>
      obtain ⟨before, behind⟩ := parts
      have named : Text.trimChars before ≠ [] := fun blank =>
        usable (unusable_iff_split.2 (.inr ⟨before, behind, split, blank⟩))
      refine ⟨String.ofList (Text.trimChars before), String.ofList behind,
        assigns_iff_split.2 ⟨before, ?_, ?_, ?_⟩⟩
      · rw [String.toList_ofList, split]
      · rw [String.toList_ofList]
      · intro empty
        exact named (by simpa using congrArg String.toList empty)

/-- An argument assigns one value to one key. -/
theorem assigns_unique {key' value' : String} (first : Assigns arg key value)
    (second : Assigns arg key' value') : key = key' ∧ value = value' := by
  have same := readAssignment_of_assigns first
  rw [readAssignment_of_assigns second] at same
  cases same
  exact ⟨rfl, rfl⟩

/-! ## Carrying out assignments -/

theorem assign_of_assigns (c : Config) (assigns : Assigns arg key value) :
    assign c arg = .ok (c.insert key value) := by
  unfold assign
  rw [readAssignment_of_assigns assigns]
  rfl

theorem lastAssigns_cons_iff {rest : List String} :
    LastAssigns key value (arg :: rest) ↔
      LastAssigns key value rest ∨ Assigns arg key value ∧ Unassigned rest key := by
  constructor
  · intro last
    cases last with
    | here assigns none => exact .inr ⟨assigns, none⟩
    | later last => exact .inl last
  · rintro (last | ⟨assigns, none⟩)
    · exact .later last
    · exact .here assigns none

theorem LastAssigns.assigns (last : LastAssigns key value args) :
    ∃ arg ∈ args, Assigns arg key value := by
  induction last with
  | here assigns _ => exact ⟨_, List.mem_cons_self, assigns⟩
  | later _ ih =>
      obtain ⟨arg, among, assigns⟩ := ih
      exact ⟨arg, List.mem_cons_of_mem _ among, assigns⟩

theorem unassigned_cons_iff {rest : List String} :
    Unassigned (arg :: rest) key ↔ (∀ value, ¬ Assigns arg key value) ∧ Unassigned rest key :=
  List.forall_mem_cons

/-- Usable arguments are carried out from left to right, so the last one for a key counts. -/
theorem foldlM_assign_of_usable (usable : ∀ arg ∈ args, ¬ Unusable arg) (c : Config) :
    ∃ c', args.foldlM assign c = .ok c' ∧
      ∀ key text, c'.get? key = some text ↔
        LastAssigns key text args ∨ Unassigned args key ∧ c.get? key = some text := by
  induction args generalizing c with
  | nil =>
      refine ⟨c, rfl, ?_⟩
      intro key text
      constructor
      · exact fun found => .inr ⟨nofun, found⟩
      · rintro (last | ⟨_, found⟩)
        · cases last
        · exact found
  | cons arg rest ih =>
      obtain ⟨usableHere, usableLater⟩ := List.forall_mem_cons.1 usable
      obtain ⟨name, given, assigns⟩ := assigns_of_usable usableHere
      obtain ⟨c', done, found⟩ := ih usableLater (c.insert name given)
      refine ⟨c', ?_, ?_⟩
      · rw [List.foldlM_cons, assign_of_assigns c assigns]
        exact done
      · intro key text
        rw [found, Dict.get?_insert, lastAssigns_cons_iff, unassigned_cons_iff]
        by_cases same : name = key
        · -- This argument counts unless a later one assigns to the same key.
          subst same
          have here : ∀ text, Assigns arg name text ↔ given = text := by
            intro text
            constructor
            · exact fun other => (assigns_unique assigns other).2
            · rintro rfl
              exact assigns
          simp only [if_true, Option.some.injEq, here]
          constructor
          · rintro (last | ⟨none, rfl⟩)
            · exact .inl (.inl last)
            · exact .inl (.inr ⟨rfl, none⟩)
          · rintro ((last | ⟨rfl, none⟩) | ⟨⟨never, _⟩, _⟩)
            · exact .inl last
            · exact .inr ⟨none, rfl⟩
            · exact absurd rfl (never given)
        · have elsewhere : ∀ text, ¬ Assigns arg key text := fun text other =>
            same (assigns_unique assigns other).1
          simp only [same, if_false, elsewhere, false_and, or_false, not_false_eq_true,
            implies_true, true_and]

theorem foldlM_assign_of_unusable (c : Config) (unusable : ∃ arg ∈ args, Unusable arg) :
    ∃ t, args.foldlM assign c = .error t := by
  induction args generalizing c with
  | nil =>
      obtain ⟨_, ⟨⟩, _⟩ := unusable
  | cons arg rest ih =>
      rw [List.foldlM_cons]
      by_cases here : Unusable arg
      · obtain ⟨t, refused⟩ := readAssignment_of_unusable here
        refine ⟨t, ?_⟩
        unfold assign
        rw [refused]
        rfl
      · obtain ⟨key, value, assigns⟩ := assigns_of_usable here
        have later : ∃ arg ∈ rest, Unusable arg := by
          obtain ⟨other, among, bad⟩ := unusable
          rcases List.mem_cons.1 among with rfl | among
          · exact absurd bad here
          · exact ⟨other, among, bad⟩
        rw [assign_of_assigns c assigns]
        exact ih (c.insert key value) later

/-! ## Scalars of a file -/

/-- The text of a scalar that is not null. -/
inductive Shows : Yaml.Value → String → Prop where
  | text (s : String) : Shows (.str s) s
  | integer (n : Int) : Shows (.int n) (toString n)
  | float (x : Float) : Shows (.float x) (Yaml.Value.floatText x)
  | yes : Shows (.bool true) "true"
  | no : Shows (.bool false) "false"

/-- The values that are no scalars. -/
inductive Compound : Yaml.Value → Prop where
  | sequence (items : List Yaml.Value) : Compound (.sequence items)
  | mapping (entries : List (Yaml.Value × Yaml.Value)) : Compound (.mapping entries)
  | tagged (tag : String) (v : Yaml.Value) : Compound (.tagged tag v)

variable {v : Yaml.Value} {es : List (String × Yaml.Value)}

theorem not_shows_null {text : String} : ¬ Shows .null text := by
  intro shown
  cases shown

theorem not_compound_of_shows {text : String} (shown : Shows v text) : ¬ Compound v := by
  intro compound
  cases shown <;> cases compound

theorem shows_unique {first second : String} (one : Shows v first) (other : Shows v second) :
    first = second := by
  cases one <;> cases other <;> rfl

/-- A value is null, has a text, or is no scalar. -/
theorem scalarText_cases (key : String) (v : Yaml.Value) :
    (v = .null ∧ scalarText key v = .ok none) ∨
    (∃ text, Shows v text ∧ scalarText key v = .ok (some text)) ∨
    (Compound v ∧ ∃ t, scalarText key v = .error t) := by
  cases v with
  | null => exact .inl ⟨rfl, rfl⟩
  | bool b =>
      cases b with
      | true => exact .inr (.inl ⟨_, .yes, rfl⟩)
      | false => exact .inr (.inl ⟨_, .no, rfl⟩)
  | int n => exact .inr (.inl ⟨_, .integer n, rfl⟩)
  | float x => exact .inr (.inl ⟨_, .float x, rfl⟩)
  | str s => exact .inr (.inl ⟨_, .text s, rfl⟩)
  | sequence items => exact .inr (.inr ⟨.sequence items, _, rfl⟩)
  | mapping entries => exact .inr (.inr ⟨.mapping entries, _, rfl⟩)
  | tagged tag v => exact .inr (.inr ⟨.tagged tag v, _, rfl⟩)

/-- Scalars are put in one after another, and those that are null are left out. -/
theorem addEntries_of_scalars (ascending : Entries.Ascending es)
    (scalars : ∀ e ∈ es, ¬ Compound e.2) (c : Config) (new : ∀ e ∈ es, c.get? e.1 = none) :
    ∃ c', addEntries es c = .ok c' ∧
      ∀ key text, c'.get? key = some text ↔
        (∃ v, Entries.find? es key = some v ∧ Shows v text) ∨ c.get? key = some text := by
  induction es generalizing c with
  | nil =>
      refine ⟨c, rfl, ?_⟩
      intro key text
      simp [Entries.find?]
  | cons e rest ih =>
      obtain ⟨name, v⟩ := e
      obtain ⟨first, ascendingRest⟩ := List.pairwise_cons.1 ascending
      obtain ⟨scalar, scalarsRest⟩ := List.forall_mem_cons.1 scalars
      obtain ⟨newHere, newRest⟩ := List.forall_mem_cons.1 new
      have apart : ∀ e ∈ rest, e.1 ≠ name := fun e among same =>
        String.lt_irrefl name (same ▸ first e among)
      have notAgain : Entries.find? rest name = none := Entries.find?_eq_none apart
      rcases scalarText_cases name v with ⟨rfl, read⟩ | ⟨text, shown, read⟩ | ⟨compound, _⟩
      · obtain ⟨c', done, found⟩ := ih ascendingRest scalarsRest c newRest
        refine ⟨c', ?_, ?_⟩
        · rw [addEntries, read]
          exact done
        · intro key other
          rw [found, Entries.find?]
          by_cases same : name = key
          · subst same
            simp [notAgain, not_shows_null]
          · simp [same]
      · have newAfter : ∀ e ∈ rest, Dict.get? (c.insert name text) e.1 = none := by
          intro e among
          rw [Dict.get?_insert, if_neg (Ne.symm (apart e among))]
          exact newRest e among
        obtain ⟨c', done, found⟩ := ih ascendingRest scalarsRest (c.insert name text) newAfter
        refine ⟨c', ?_, ?_⟩
        · rw [addEntries, read]
          exact done
        · intro key other
          rw [found, Entries.find?, Dict.get?_insert]
          by_cases same : name = key
          · subst same
            have textIs : text = other ↔ Shows v other := by
              constructor
              · rintro rfl
                exact shown
              · exact shows_unique shown
            have newName : c.get? name = none := newHere
            simp [notAgain, newName, textIs]
          · simp [same]
      · exact absurd compound scalar

theorem addEntries_of_compound (c : Config) (compound : ∃ e ∈ es, Compound e.2) :
    ∃ t, addEntries es c = .error t := by
  induction es generalizing c with
  | nil =>
      obtain ⟨_, ⟨⟩, _⟩ := compound
  | cons e rest ih =>
      obtain ⟨name, v⟩ := e
      have later : ¬ Compound v → ∃ e ∈ rest, Compound e.2 := by
        intro scalar
        obtain ⟨other, among, bad⟩ := compound
        rcases List.mem_cons.1 among with rfl | among
        · exact absurd bad scalar
        · exact ⟨other, among, bad⟩
      rw [addEntries]
      rcases scalarText_cases name v with ⟨rfl, read⟩ | ⟨text, shown, read⟩ | ⟨_, t, read⟩
      · rw [read]
        exact ih c (later nofun)
      · rw [read]
        exact ih _ (later (not_compound_of_shows shown))
      · rw [read]
        exact ⟨t, rfl⟩

/-! ## Loading -/

/-- What there is to load: nothing without a file, and else the entries of a file whose text can be
read as nothing or as a mapping from scalars. -/
inductive Source (t : Tree) : Option Path → Dict Yaml.Value → Prop where
  | noFile : Source t none Dict.empty
  | file {p : Path} {text : String} {values : Dict Yaml.Value} :
      t.readText p = .ok text → Yaml.entries? text = some values → Source t (some p) values

variable {t : Tree} {file : Option Path} {values : Dict Yaml.Value}

theorem mem_entries_iff : (∃ e ∈ values.entries, Compound e.2) ↔
    ∃ key v, values.get? key = some v ∧ Compound v := by
  constructor
  · rintro ⟨⟨key, v⟩, among, compound⟩
    exact ⟨key, v, Entries.find?_of_mem values.ascending among, compound⟩
  · rintro ⟨key, v, found, compound⟩
    exact ⟨(key, v), Entries.mem_of_find? found, compound⟩

theorem loadFile_of_text {p : Path} {text : String} (read : t.readText p = .ok text)
    (parsed : Yaml.entries? text = some values) :
    loadFile t (some p)
      = (addEntries values.entries Dict.empty).mapError
          (Trouble.within ("Failed to parse config file: " ++ p)) := by
  have whole : readYaml text = addEntries values.entries Dict.empty := by
    unfold readYaml
    rw [parsed]
  unfold loadFile
  simp only [read]
  show (readYaml text).mapError _ = _
  rw [whole]

theorem loadFile_of_scalars (source : Source t file values)
    (scalars : ¬ ∃ key v, values.get? key = some v ∧ Compound v) :
    ∃ c, loadFile t file = .ok c ∧
      ∀ key text, c.get? key = some text ↔ ∃ v, values.get? key = some v ∧ Shows v text := by
  cases source with
  | noFile =>
      refine ⟨Dict.empty, rfl, ?_⟩
      intro key text
      constructor
      · exact nofun
      · rintro ⟨_, ⟨⟩, _⟩
  | @file p _ _ read parsed =>
      rw [← mem_entries_iff] at scalars
      have each : ∀ e ∈ values.entries, ¬ Compound e.2 := fun e among compound =>
        scalars ⟨e, among, compound⟩
      obtain ⟨c, done, found⟩ :=
        addEntries_of_scalars values.ascending each Dict.empty (fun _ _ => rfl)
      refine ⟨c, ?_, ?_⟩
      · rw [loadFile_of_text read parsed, done]
        rfl
      · intro key text
        rw [found]
        constructor
        · rintro (shown | ⟨⟨⟩⟩)
          exact shown
        · exact .inl

theorem loadFile_of_compound (source : Source t file values)
    (compound : ∃ key v, values.get? key = some v ∧ Compound v) :
    ∃ trouble, loadFile t file = .error trouble := by
  cases source with
  | noFile =>
      obtain ⟨_, _, ⟨⟩, _⟩ := compound
  | @file p _ _ read parsed =>
      obtain ⟨trouble, refused⟩ :=
        addEntries_of_compound Dict.empty (mem_entries_iff.2 compound)
      refine ⟨trouble.within ("Failed to parse config file: " ++ p), ?_⟩
      rw [loadFile_of_text read parsed, refused]
      rfl

/-- What a configuration cannot be loaded from. -/
def Unloadable (values : Dict Yaml.Value) (args : List String) : Prop :=
  (∃ key v, values.get? key = some v ∧ Compound v) ∨ ∃ arg ∈ args, Unusable arg

theorem loadConfig_of_unloadable (source : Source t file values)
    (unloadable : Unloadable values args) :
    ∃ trouble, loadConfig t ⟨file, args⟩ = .error trouble := by
  unfold loadConfig
  by_cases compound : ∃ key v, values.get? key = some v ∧ Compound v
  · obtain ⟨trouble, refused⟩ := loadFile_of_compound source compound
    rw [refused]
    exact ⟨trouble, rfl⟩
  · obtain ⟨c, loaded, _⟩ := loadFile_of_scalars source compound
    rw [loaded]
    exact foldlM_assign_of_unusable c (unloadable.resolve_left compound)

theorem loadConfig_of_loadable (source : Source t file values)
    (loadable : ¬ Unloadable values args) :
    ∃ c, loadConfig t ⟨file, args⟩ = .ok c ∧
      ∀ key text, c.get? key = some text ↔
        LastAssigns key text args ∨
          Unassigned args key ∧ ∃ v, values.get? key = some v ∧ Shows v text := by
  obtain ⟨scalars, usable⟩ := not_or.1 loadable
  obtain ⟨c, loaded, inFile⟩ := loadFile_of_scalars source scalars
  have each : ∀ arg ∈ args, ¬ Unusable arg := fun arg among bad => usable ⟨arg, among, bad⟩
  obtain ⟨c', done, found⟩ := foldlM_assign_of_usable each c
  refine ⟨c', ?_, ?_⟩
  · unfold loadConfig
    rw [loaded]
    exact done
  · intro key text
    rw [found, inFile]

/-- For every file that holds nothing or maps keys to values, and for all assignments: the
configuration cannot be loaded exactly if some value is a sequence, a mapping or tagged, or some
argument has no equals sign or only white space before its first one.  Otherwise it is loaded, and a
key has a text exactly if the last argument that assigns anything to the key assigns this text, or
if none does and the file has a scalar other than null under the key that reads so. -/
theorem loaded_from_file_and_assignments (source : Source t file values) (args : List String) :
    ((∃ trouble, loadConfig t ⟨file, args⟩ = .error trouble) ↔ Unloadable values args) ∧
    (¬ Unloadable values args →
      ∃ c, loadConfig t ⟨file, args⟩ = .ok c ∧
        ∀ key text, c.get? key = some text ↔
          LastAssigns key text args ∨
            Unassigned args key ∧ ∃ v, values.get? key = some v ∧ Shows v text) := by
  refine ⟨⟨?_, loadConfig_of_unloadable source⟩, loadConfig_of_loadable source⟩
  rintro ⟨trouble, refused⟩
  by_contra loadable
  obtain ⟨c, loaded, _⟩ := loadConfig_of_loadable source loadable
  rw [refused] at loaded
  cases loaded

/-- A working directory with a file of settings. -/
def settingsFile : Tree where
  entries := Dict.ofList [("/work", .directory),
    ("/work/q.yaml", .file (.text "bond_dim: 8\nempty: ~\nremote_config: rc-1\n"))]
  current := ["work"]

/-- Two assignments to one key, and one whose value has an equals sign. -/
def twiceAssigned : List String := ["bond_dim=16", " bond_dim =32", "base_url=https://h/?a=b"]

/-- The later assignment counts, and the file where there is none; null counts as nothing. -/
theorem settingsFile_loaded :
    ∃ values c, Source settingsFile (some "q.yaml") values ∧ ¬ Unloadable values twiceAssigned ∧
      loadConfig settingsFile ⟨some "q.yaml", twiceAssigned⟩ = .ok c ∧
      c = Dict.ofList
        [("base_url", "https://h/?a=b"), ("bond_dim", "32"), ("remote_config", "rc-1")] ∧
      LastAssigns "bond_dim" "32" twiceAssigned ∧
      ∃ v, values.get? "remote_config" = some v ∧ Shows v "rc-1" := by
  have parses : (Yaml.entries? "bond_dim: 8\nempty: ~\nremote_config: rc-1\n").isSome = true := by
    decide +kernel
  obtain ⟨values, parsed⟩ := Option.isSome_iff_exists.1 parses
  have source : Source settingsFile (some "q.yaml") values := .file (by decide +kernel) parsed
  have loaded : loadConfig settingsFile ⟨some "q.yaml", twiceAssigned⟩ = .ok (Dict.ofList
      [("base_url", "https://h/?a=b"), ("bond_dim", "32"), ("remote_config", "rc-1")]) := by
    decide +kernel
  obtain ⟨refused, found⟩ := loaded_from_file_and_assignments source twiceAssigned
  have loadable : ¬ Unloadable values twiceAssigned := by
    intro unloadable
    obtain ⟨trouble, failed⟩ := refused.2 unloadable
    rw [loaded] at failed
    cases failed
  obtain ⟨c, done, found⟩ := found loadable
  rw [loaded] at done
  cases done
  have assigns : Assigns " bond_dim =32" "bond_dim" "32" :=
    assigns_iff_split.2 ⟨" bond_dim ".toList, by decide +kernel, by decide +kernel, by decide⟩
  refine ⟨values, _, source, loadable, loaded, rfl, ?_, ?_⟩
  · refine ((found "bond_dim" "32").1 (by decide +kernel)).resolve_right ?_
    rintro ⟨none, _⟩
    exact none _ (by simp [twiceAssigned]) _ assigns
  · rcases (found "remote_config" "rc-1").1 (by decide +kernel) with last | ⟨_, inFile⟩
    · have never : ∀ arg ∈ twiceAssigned, readAssignment arg ≠ .ok ("remote_config", "rc-1") := by
        decide +kernel
      obtain ⟨arg, among, assigns⟩ := last.assigns
      exact absurd (readAssignment_of_assigns assigns) (never arg among)
    · exact inFile

end CommandLine
end QuantumJobs

import QuantumJobs.Json.Decode

/-!
# Decoding — reading what was written

A record is written as an object and read by the names of its fields.  The fields are looked up in
the object as it is after sorting; a record is read if every field can be read from what stands
under its name, because the check that comes first looks at the same values.
-/

namespace QuantumJobs

/-! ## What may fail -/

/-- Two parts in a row succeed only if both do. -/
theorem of_bind_ok {ε α β : Type} {x : Except ε α} {f : α → Except ε β} {b : β}
    (both : (x >>= f) = .ok b) : ∃ a, x = .ok a ∧ f a = .ok b := by
  cases x with
  | error e => cases both
  | ok a => exact ⟨a, rfl, both⟩

theorem of_map_ok {ε α β : Type} {x : Except ε α} {f : α → β} {b : β} (both : x.map f = .ok b) :
    ∃ a, x = .ok a ∧ f a = b := by
  cases x with
  | error e => cases both
  | ok a =>
      cases both
      exact ⟨a, rfl, rfl⟩

/-! ## Entry lists -/

namespace Entries

variable {α : Type}

/-- What was put under a key is found under it, and everything else as before. -/
@[simp]
theorem find?_insert (key other : String) (value : α) :
    ∀ es : List (String × α),
      find? (insert key value es) other = if key = other then some value else find? es other := by
  intro es
  induction es with
  | nil => rfl
  | cons e rest ih =>
      obtain ⟨k, v⟩ := e
      unfold insert
      by_cases before : key < k
      · simp only [before, if_true]
        rfl
      · by_cases same : key = k
        · subst same
          simp only [before, if_false, if_true, find?]
          by_cases found : key = other
          · simp [found]
          · simp [found]
        · simp only [before, same, if_false, find?, ih]
          by_cases here : k = other
          · subst here
            simp [same]
          · simp [here]

/-- A key that comes after all others goes to the end. -/
theorem insert_of_last {key : String} {value : α} :
    ∀ {es : List (String × α)}, (∀ e ∈ es, e.1 < key) → insert key value es = es ++ [(key, value)]
  | [], _ => rfl
  | (k, v) :: rest, last => by
      have before : k < key := last (k, v) List.mem_cons_self
      have notAfter : ¬ key < k := String.lt_asymm before
      have ne : ¬ key = k := by
        intro same
        subst same
        exact String.lt_irrefl key before
      unfold insert
      rw [if_neg notAfter, if_neg ne, insert_of_last fun e here =>
        last e (List.mem_cons_of_mem _ here)]
      rfl

theorem foldl_insert_append :
    ∀ (es before : List (String × α)), Ascending (before ++ es) →
      es.foldl (fun acc e => insert e.1 e.2 acc) before = before ++ es := by
  intro es
  induction es with
  | nil =>
      intro before _
      simp
  | cons e es ih =>
      intro before ascending
      have last : ∀ d ∈ before, d.1 < e.1 := by
        intro d here
        exact (List.pairwise_append.1 ascending).2.2 d here e List.mem_cons_self
      -- The new entry comes last, so the rest is put in after it.
      rw [List.foldl_cons, insert_of_last last, ih]
      · simp
      · simpa using ascending

/-- Entries in ascending order stay as they are when they are put in one by one. -/
theorem foldl_insert {es : List (String × α)} (ascending : Ascending es) :
    es.foldl (fun acc e => insert e.1 e.2 acc) [] = es :=
  foldl_insert_append es [] ascending

theorem ascending_foldl_insert :
    ∀ {es before : List (String × α)}, Ascending before →
      Ascending (es.foldl (fun acc e => insert e.1 e.2 acc) before) := by
  intro es
  induction es with
  | nil =>
      intro before ascending
      exact ascending
  | cons e es ih =>
      intro before ascending
      exact ih (ascending_insert ascending)

theorem find?_of_mem {key : String} {value : α} :
    ∀ {es : List (String × α)}, Ascending es → (key, value) ∈ es → find? es key = some value
  | (k, v) :: rest, ascending, here => by
      obtain ⟨first, ascendingRest⟩ := List.pairwise_cons.1 ascending
      rcases List.mem_cons.1 here with same | inRest
      · cases same
        simp [find?]
      · have ne : ¬ k = key := by
          intro same
          subst same
          exact String.lt_irrefl k (first (k, value) inRest)
        simp only [find?, ne, if_false]
        exact find?_of_mem ascendingRest inRest

end Entries

theorem Dict.foldl_insert_entries {α : Type} :
    ∀ (es : List (String × α)) (d : Dict α),
      (es.foldl (fun d e => d.insert e.1 e.2) d).entries
        = es.foldl (fun acc e => Entries.insert e.1 e.2 acc) d.entries := by
  intro es
  induction es with
  | nil =>
      intro d
      rfl
  | cons e es ih =>
      intro d
      exact ih (d.insert e.1 e.2)

theorem Dict.ofList_entries {α : Type} (d : Dict α) : Dict.ofList d.entries = d := by
  apply Dict.ext
  show (d.entries.foldl (fun d e => d.insert e.1 e.2) Dict.empty).entries = d.entries
  rw [Dict.foldl_insert_entries]
  exact Entries.foldl_insert d.ascending

namespace Json

/-! ## Sorted values -/

theorem sortedItems_eq_map (items : List Json) : sortedItems items = items.map sorted := by
  induction items with
  | nil => simp [sortedItems]
  | cons v rest ih => simp [sortedItems, ih]

theorem sortedFields_eq_map (fields : List (String × Json)) :
    sortedFields fields = fields.map fun f => (f.1, f.2.sorted) := by
  induction fields with
  | nil => simp [sortedFields]
  | cons f rest ih =>
      obtain ⟨k, v⟩ := f
      simp [sortedFields, ih]

theorem sorted_arr_map {α : Type} (items : List α) (f : α → Json) :
    (Json.arr (items.map f)).sorted = .arr (items.map fun a => (f a).sorted) := by
  simp [sorted, sortedItems_eq_map]

/-- An object whose fields ascend is sorted if its values are. -/
theorem sorted_obj_entries {α : Type} (d : Dict α) {f : α → Json}
    (values : ∀ a, (f a).sorted = f a) :
    (Json.obj (d.entries.map fun e => (e.1, f e.2))).sorted
      = .obj (d.entries.map fun e => (e.1, f e.2)) := by
  have ascending : Entries.Ascending (d.entries.map fun e => (e.1, f e.2)) :=
    List.pairwise_map.2 d.ascending
  have same : sortedFields (d.entries.map fun e => (e.1, f e.2))
      = d.entries.map fun e => (e.1, f e.2) := by
    simp [sortedFields_eq_map, values]
  unfold sorted ofFields
  rw [same, Entries.foldl_insert ascending]

/-! ## Collections -/

theorem mapM_map_ok {α β : Type} {f : α → β} {g : β → Decoding α} :
    ∀ {items : List α}, (∀ a ∈ items, g (f a) = .ok a) → (items.map f).mapM g = .ok items := by
  intro items
  induction items with
  | nil =>
      intro _
      rfl
  | cons a items ih =>
      intro read
      rw [List.map_cons, List.mapM_cons, read a List.mem_cons_self, ih fun c here =>
        read c (List.mem_cons_of_mem _ here)]
      rfl

theorem listOf_map {α : Type} {d : Decoder α} {f : α → Json} {items : List α}
    (read : ∀ a ∈ items, d (f a) = .ok a) : listOf d (.arr (items.map f)) = .ok items := by
  unfold listOf
  exact mapM_map_ok read

theorem dictOf_entries {α : Type} {d : Decoder α} {f : α → Json} {dict : Dict α}
    (read : ∀ e ∈ dict.entries, d (f e.2) = .ok e.2) :
    dictOf d (.obj (dict.entries.map fun e => (e.1, f e.2))) = .ok dict := by
  unfold dictOf
  have all : (dict.entries.map fun e => (e.1, f e.2)).mapM
      (fun g => (d g.2).map fun a => (g.1, a)) = .ok dict.entries := by
    apply mapM_map_ok
    intro e here
    rw [read e here]
    rfl
  simp only [all, Bind.bind, Except.bind, Dict.ofList_entries]

/-! ## Records -/

namespace Shape

variable {α β : Type}

theorem build_map (f : α → β) (x : Shape α) (source : String → Option Json) :
    (f <$> x).build source = (x.build source).map f := by
  show (do let g ← Except.ok f; let a ← x.build source; Except.ok (g a)) = _
  cases x.build source <;> rfl

theorem build_seq (f : Shape (α → β)) (x : Shape α) (source : String → Option Json) :
    (f <*> x).build source = (f.build source).bind fun g => (x.build source).map g := by
  show (do let g ← f.build source; let a ← x.build source; Except.ok (g a)) = _
  cases f.build source with
  | error m => rfl
  | ok g => cases x.build source <;> rfl

theorem build_required {name : String} {d : Decoder α} {source : String → Option Json} {v : Json}
    (found : source name = some v) : (required name d).build source = d v := by
  simp [required, found]

theorem build_withDefault {name : String} {absent : α} {d : Decoder α}
    {source : String → Option Json} {v : Json} (found : source name = some v) :
    (withDefault name absent d).build source = d v := by
  simp [withDefault, found]

theorem build_optional {name : String} {d : Decoder α} {source : String → Option Json} {v : Json}
    (found : source name = some v) : (optional name d).build source = nullable d v := by
  simp [optional, withDefault, found]

theorem build_optional_absent {name : String} {d : Decoder α} {source : String → Option Json}
    (missing : source name = none) : (optional name d).build source = .ok none := by
  simp [optional, withDefault, missing]

/-- Where a shape can be built, its fields pass their checks. -/
def Lawful (s : Shape α) : Prop :=
  ∀ source a, s.build source = .ok a →
    ∀ f ∈ s.fields, ∀ v, source f.name = some v → f.check v = .ok ()

theorem Lawful.map {f : α → β} {x : Shape α} (lawful : x.Lawful) : (f <$> x).Lawful := by
  intro source b built
  rw [build_map] at built
  cases partly : x.build source with
  | error m =>
      rw [partly] at built
      cases built
  | ok a => exact lawful source a partly

theorem Lawful.seq {f : Shape (α → β)} {x : Shape α} (first : f.Lawful) (second : x.Lawful) :
    (f <*> x).Lawful := by
  intro source b built
  rw [build_seq] at built
  cases left : f.build source with
  | error m =>
      rw [left] at built
      cases built
  | ok g =>
      cases right : x.build source with
      | error m =>
          rw [left, right] at built
          cases built
      | ok a =>
          intro field here
          have either : field ∈ f.fields ++ x.fields := here
          rcases List.mem_append.1 either with inFirst | inSecond
          · exact first source g left field inFirst
          · exact second source a right field inSecond

theorem lawful_required (name : String) (d : Decoder α) : (required name d).Lawful := by
  intro source a built field here v found
  cases List.mem_singleton.1 here
  rw [build_required found] at built
  show (d v).map _ = _
  rw [built]
  rfl

theorem lawful_withDefault (name : String) (absent : α) (d : Decoder α) :
    (withDefault name absent d).Lawful := by
  intro source a built field here v found
  cases List.mem_singleton.1 here
  rw [build_withDefault found] at built
  show (d v).map _ = _
  rw [built]
  rfl

theorem lawful_optional (name : String) (d : Decoder α) : (optional name d).Lawful :=
  lawful_withDefault name none (nullable d)

end Shape

theorem checkFields_ok {fields : List Field} :
    ∀ {es : List (String × Json)},
      (∀ e ∈ es, ∀ f ∈ fields, f.name = e.1 → f.check e.2 = .ok ()) →
        checkFields fields es = .ok () := by
  intro es
  induction es with
  | nil =>
      intro _
      rfl
  | cons e es ih =>
      obtain ⟨key, v⟩ := e
      intro passes
      have rest := ih fun e here => passes e (List.mem_cons_of_mem _ here)
      unfold checkFields
      cases found : fields.find? (·.name = key) with
      | none => exact rest
      | some f =>
          have named : f.name = key := by simpa using List.find?_some found
          have passed : f.check v = .ok () :=
            passes (key, v) List.mem_cons_self f (List.mem_of_find?_eq_some found) named
          simp only [passed]
          exact rest

/-- A record is read from an object if its value can be built from what stands under the names. -/
theorem recordOfFields_ok {α : Type} {shape : Shape α} {es : List (String × Json)} {a : α}
    (lawful : shape.Lawful) (ascending : Entries.Ascending es)
    (built : shape.build (Entries.find? es) = .ok a) : recordOfFields shape es = .ok a := by
  unfold recordOfFields
  have checked : checkFields shape.fields es = .ok () := by
    -- Keys are unique, so the entry that a field checks is the one that is found under its name.
    apply checkFields_ok
    intro e here f inShape named
    apply lawful (Entries.find? es) a built f inShape
    rw [named]
    exact Entries.find?_of_mem ascending here
  simp only [checked, Bind.bind, Except.bind, built]

/-- The fields of an object with the given fields, as they are after sorting. -/
def sortedEntries (fields : List (String × Json)) : List (String × Json) :=
  (sortedFields fields).foldl (fun es f => Entries.insert f.1 f.2 es) []

theorem sorted_obj (fields : List (String × Json)) :
    (Json.obj fields).sorted = .obj (sortedEntries fields) := by
  unfold sorted ofFields sortedEntries
  rfl

theorem ascending_sortedEntries (fields : List (String × Json)) :
    Entries.Ascending (sortedEntries fields) :=
  Entries.ascending_foldl_insert List.Pairwise.nil

end Json
end QuantumJobs

import Mathlib.Data.List.Forall2
import QuantumJobs.Proofs.Decoding

/-!
# AcceptedShapes — what a value must have looked like if it was read

The converse of writing and reading back: from the fact that a decoder has answered with a value
follows the shape of what it was given.  A record gives its fields by name if it is an object, and
by position if it is an array; which of the two it was, the value that was read does not tell.
-/

namespace QuantumJobs

/-! ## Lists that were read -/

section

variable {ε α β : Type}

/-- A list that was read holds what was read of each item, in the items' order. -/
theorem forall₂_of_mapM {d : β → Except ε α} :
    ∀ {items : List β} {values : List α}, items.mapM d = .ok values →
      List.Forall₂ (fun v a => d v = .ok a) items values := by
  intro items
  induction items with
  | nil =>
      intro values read
      cases read
      exact .nil
  | cons v items ih =>
      intro values read
      rw [List.mapM_cons] at read
      obtain ⟨a, first, read⟩ := of_bind_ok read
      obtain ⟨rest, later, read⟩ := of_bind_ok read
      cases read
      exact .cons first (ih later)

/-- A list that was read has a value for each of its items, each of which was read. -/
theorem of_mapM {d : β → Except ε α} {items : List β} {values : List α}
    (read : items.mapM d = .ok values) :
    values.length = items.length ∧ ∀ v ∈ items, ∃ a, d v = .ok a := by
  have pairs := forall₂_of_mapM read
  clear read
  refine ⟨pairs.length_eq.symm, ?_⟩
  induction pairs with
  | nil => exact fun _ here => nomatch here
  | cons first _ ih => exact List.forall_mem_cons.2 ⟨⟨_, first⟩, ih⟩

/-- Whatever stands in a list that was read was read of some item. -/
theorem exists_of_mapM {d : β → Except ε α} {items : List β} {values : List α} {a : α}
    (read : items.mapM d = .ok values) (here : a ∈ values) : ∃ v ∈ items, d v = .ok a := by
  have pairs := forall₂_of_mapM read
  clear read
  induction pairs with
  | nil => cases here
  | cons first _ ih =>
      rcases List.mem_cons.1 here with rfl | later
      · exact ⟨_, List.mem_cons_self, first⟩
      · obtain ⟨v, inItems, read⟩ := ih later
        exact ⟨v, List.mem_cons_of_mem _ inItems, read⟩

/-- A list can be read if each of its items can be. -/
theorem exists_mapM {d : β → Except ε α} :
    ∀ {items : List β}, (∀ v ∈ items, ∃ a, d v = .ok a) → ∃ values, items.mapM d = .ok values := by
  intro items
  induction items with
  | nil => exact fun _ => ⟨[], rfl⟩
  | cons v items ih =>
      intro each
      obtain ⟨a, first⟩ := each v List.mem_cons_self
      obtain ⟨rest, later⟩ := ih fun w here => each w (List.mem_cons_of_mem v here)
      refine ⟨a :: rest, ?_⟩
      rw [List.mapM_cons, first, later]
      rfl

end

namespace Json

variable {α β : Type}

/-! ## Records -/

/-- A way in which a value may give the fields of a record: what stands under each of the names. -/
abbrev Layout := List String → Json → (String → Option Json) → Prop

/-- An object gives fields by its keys. -/
inductive ByName (names : List String) : Json → (String → Option Json) → Prop where
  | intro (fields : List (String × Json)) : ByName names (.obj fields) (Entries.find? fields)

/-- An array gives fields too: those at the front, in the order of the names. -/
inductive ByNameOrPosition (names : List String) : Json → (String → Option Json) → Prop where
  | byName (fields : List (String × Json)) :
      ByNameOrPosition names (.obj fields) (Entries.find? fields)
  | byPosition {items : List Json} :
      items.length ≤ names.length →
        ByNameOrPosition names (.arr items) (Entries.find? (names.zip items))

/-- Only a record without a surplus of items passes the check of its items. -/
theorem length_le_of_checkItems {what : String} {place : Place} {count : Nat} :
    ∀ {fields : List Field} {items : List Json} (i : Nat),
      checkItems what place count i fields items = .ok () → items.length ≤ fields.length
  | _, [], _, _ => Nat.zero_le _
  -- The fields are used up before the items are.
  | [], _ :: _, _, checked => by
      unfold checkItems at checked
      cases checked
  | f :: fields, v :: items, i, checked => by
      unfold checkItems at checked
      obtain ⟨_, _, rest⟩ := of_bind_ok checked
      exact Nat.succ_le_succ (length_le_of_checkItems (i + 1) rest)

/-- A record that was read was built from fields that the value gives. -/
theorem given_of_record {type : String} {shape : Shape α} {place : Place} {v : Json} {a : α}
    (read : record type shape place v = .ok a) :
    ∃ field, ByNameOrPosition (shape.fields.map (·.name)) v field ∧ shape.build field = .ok a := by
  cases v with
  | obj fields =>
      obtain ⟨_, _, built⟩ := of_bind_ok read
      exact ⟨_, .byName fields, built⟩
  | arr items =>
      obtain ⟨_, checked, built⟩ := of_bind_ok read
      -- The check has seen to it that no item is left without a name.
      have short := length_le_of_checkItems 0 checked
      exact ⟨_, .byPosition (by simpa using short), built⟩
  | _ => cases read

namespace Shape

variable {source : String → Option Json}

theorem of_build_map {f : α → β} {x : Shape α} {b : β} (built : (f <$> x).build source = .ok b) :
    ∃ a, x.build source = .ok a ∧ f a = b := by
  rw [build_map] at built
  exact of_map_ok built

theorem of_build_seq {f : Shape (α → β)} {x : Shape α} {b : β}
    (built : (f <*> x).build source = .ok b) :
    ∃ g a, f.build source = .ok g ∧ x.build source = .ok a ∧ g a = b := by
  rw [build_seq] at built
  obtain ⟨g, left, built⟩ := of_bind_ok built
  obtain ⟨a, right, rfl⟩ := of_map_ok built
  exact ⟨g, a, left, right, rfl⟩

/-- A required field is there and can be read. -/
theorem of_build_required {name : String} {d : Decoder α} {a : α}
    (built : (required name d).build source = .ok a) :
    ∃ v, source name = some v ∧ d v = .ok a := by
  cases found : source name with
  | none => simp [required, found] at built
  | some v => exact ⟨v, rfl, by rwa [build_required found] at built⟩

/-- An optional field that has a value is there and can be read. -/
theorem of_build_optional {name : String} {d : Decoder α} {a : α}
    (built : (optional name d).build source = .ok (some a)) :
    ∃ v, source name = some v ∧ d v = .ok a := by
  cases found : source name with
  | none => simp [optional, withDefault, found] at built
  | some v =>
      rw [build_optional found] at built
      refine ⟨v, rfl, ?_⟩
      cases v with
      -- Null is read as no value.
      | null => cases built
      | _ =>
          obtain ⟨a', read, same⟩ := of_map_ok built
          cases same
          exact read

end Shape

/-! ## Scalars -/

theorem of_asText {v : Json} {s : String} (read : asText v = .ok s) : v = .str s := by
  cases v with
  | str t =>
      cases read
      rfl
  | _ => cases read

theorem of_asIntegerIn {low high : Int} {type : String} {v : Json} {n : Int}
    (read : asIntegerIn low high type v = .ok n) : v = .int n ∧ low ≤ n ∧ n ≤ high := by
  cases v with
  | int k =>
      unfold asIntegerIn at read
      by_cases inside : low ≤ k ∧ k ≤ high
      · simp only [if_pos inside] at read
        cases read
        exact ⟨rfl, inside⟩
      · simp only [if_neg inside] at read
        cases read
  | _ => cases read

theorem of_asUnsigned {v : Json} {n : Nat} (read : asUnsigned v = .ok n) :
    v = .int n ∧ n ≤ maxUnsigned := by
  obtain ⟨k, signed, rfl⟩ := of_map_ok read
  obtain ⟨rfl, nonneg, bounded⟩ := of_asIntegerIn signed
  rw [Int.toNat_of_nonneg nonneg]
  exact ⟨rfl, by omega⟩

/-! ## Collections -/

theorem of_listOf {d : Decoder α} {v : Json} {values : List α} (read : listOf d v = .ok values) :
    ∃ items, v = .arr items ∧ values.length = items.length ∧ ∀ item ∈ items, ∃ a, d item = .ok a := by
  cases v with
  | arr items => exact ⟨items, rfl, of_mapM read⟩
  | _ => cases read

theorem of_dictOf {d : Decoder α} {v : Json} {dict : Dict α} (read : dictOf d v = .ok dict) :
    ∃ fields, v = .obj fields ∧ ∀ e ∈ fields, ∃ a, d e.2 = .ok a := by
  cases v with
  | obj fields =>
      obtain ⟨values, read, _⟩ := of_bind_ok read
      refine ⟨fields, rfl, ?_⟩
      intro e here
      obtain ⟨_, read⟩ := (of_mapM read).2 e here
      obtain ⟨a, read, _⟩ := of_map_ok read
      exact ⟨a, read⟩
  | _ => cases read

end Json
end QuantumJobs

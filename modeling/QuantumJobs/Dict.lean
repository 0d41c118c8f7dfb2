/-!
# Dict — finite maps from strings, kept in ascending key order

Configurations, request headers, histograms and registries are all finite maps whose entries are
shown in key order.  A `Dict` is the list of its entries together with the proof that the keys
ascend strictly, so two maps with the same entries are equal and every key occurs once.
Keys are compared by their code points, which is the order of their UTF-8 bytes.
-/

namespace QuantumJobs

/-! ## Entry lists -/

namespace Entries

variable {α β : Type}

/-- The keys of an entry list ascend strictly. -/
abbrev Ascending (es : List (String × α)) : Prop :=
  es.Pairwise fun a b => a.1 < b.1

/-- The first value listed under a key. -/
def find? : List (String × α) → String → Option α
  | [], _ => none
  | (k, v) :: rest, key => if k = key then some v else find? rest key

/-- Puts a value at its place in key order, replacing the value already listed there. -/
def insert (key : String) (value : α) : List (String × α) → List (String × α)
  | [] => [(key, value)]
  | (k, v) :: rest =>
      if key < k then (key, value) :: (k, v) :: rest
      else if key = k then (key, value) :: rest
      else (k, v) :: insert key value rest

theorem mem_insert {key : String} {value : α} {e : String × α} :
    ∀ {es : List (String × α)}, e ∈ insert key value es → e = (key, value) ∨ e ∈ es
  | [], h => by simpa [insert] using h
  | (k, v) :: rest, h => by
      unfold insert at h
      split at h
      · simpa using h
      · split at h
        · rcases List.mem_cons.1 h with h | h
          · exact Or.inl h
          · exact Or.inr (List.mem_cons_of_mem _ h)
        · rcases List.mem_cons.1 h with h | h
          · exact Or.inr (h ▸ List.mem_cons_self)
          · rcases mem_insert h with h | h
            · exact Or.inl h
            · exact Or.inr (List.mem_cons_of_mem _ h)

theorem ascending_insert {key : String} {value : α} :
    ∀ {es : List (String × α)}, Ascending es → Ascending (insert key value es)
  | [], _ => by simp [insert]
  | (k, v) :: rest, h => by
      obtain ⟨hk, hrest⟩ := List.pairwise_cons.1 h
      unfold insert
      split
      · rename_i hlt
        refine List.pairwise_cons.2 ⟨fun e he => ?_, h⟩
        rcases List.mem_cons.1 he with rfl | he
        · exact hlt
        · exact String.lt_trans hlt (hk e he)
      · split
        · rename_i heq
          subst heq
          exact List.pairwise_cons.2 ⟨hk, hrest⟩
        · rename_i hnlt hne
          refine List.pairwise_cons.2 ⟨fun e he => ?_, ascending_insert hrest⟩
          rcases mem_insert he with rfl | he
          · show k < key
            rcases Decidable.em (k < key) with hlt | hge
            · exact hlt
            · exact absurd (String.le_antisymm hge hnlt) hne
          · exact hk e he

theorem ascending_filter {p : String × α → Bool} {es : List (String × α)}
    (h : Ascending es) : Ascending (es.filter p) :=
  List.Pairwise.filter p h

end Entries

/-! ## Dictionaries -/

/-- A finite map from strings, as the list of its entries in ascending key order. -/
structure Dict (α : Type) where
  entries : List (String × α)
  ascending : Entries.Ascending entries := by exact List.Pairwise.nil
  deriving DecidableEq

namespace Dict

variable {α β : Type}

theorem ext {a b : Dict α} (h : a.entries = b.entries) : a = b := by
  cases a; cases b; cases h; rfl

def empty : Dict α := { entries := [] }

instance : Inhabited (Dict α) := ⟨empty⟩

instance : EmptyCollection (Dict α) := ⟨empty⟩

def get? (d : Dict α) (key : String) : Option α :=
  Entries.find? d.entries key

def contains (d : Dict α) (key : String) : Bool :=
  (d.get? key).isSome

def insert (d : Dict α) (key : String) (value : α) : Dict α :=
  { entries := Entries.insert key value d.entries
    ascending := Entries.ascending_insert d.ascending }

def erase (d : Dict α) (key : String) : Dict α :=
  { entries := d.entries.filter fun e => e.1 ≠ key
    ascending := Entries.ascending_filter d.ascending }

/-- Keeps the entries whose key satisfies the test. -/
def filterKeys (p : String → Bool) (d : Dict α) : Dict α :=
  { entries := d.entries.filter fun e => p e.1
    ascending := Entries.ascending_filter d.ascending }

/-- Inserts entries from left to right, so the last entry under a key wins. -/
def insertMany (d : Dict α) (es : List (String × α)) : Dict α :=
  es.foldl (fun d e => d.insert e.1 e.2) d

def ofList (es : List (String × α)) : Dict α :=
  empty.insertMany es

/-- The entries of both maps; where both have a key, the right one wins. -/
def merge (a b : Dict α) : Dict α :=
  a.insertMany b.entries

def size (d : Dict α) : Nat := d.entries.length

def isEmpty (d : Dict α) : Bool := d.entries.isEmpty

def keys (d : Dict α) : List String := d.entries.map (·.1)

/-- Applies a function to every value, key by key. -/
def map (f : String → α → β) (d : Dict α) : Dict β :=
  { entries := d.entries.map fun e => (e.1, f e.1 e.2)
    ascending := List.pairwise_map.2 d.ascending }

end Dict

end QuantumJobs

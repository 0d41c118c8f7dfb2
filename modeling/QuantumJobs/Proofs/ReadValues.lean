import QuantumJobs.Proofs.DictLookup
import QuantumJobs.Proofs.JsonText

/-!
# ReadValues — what the reader of JSON text gives

Whatever value a text denotes, the fields of its objects stand in key order and it is nested no
deeper than the reader goes.  A float that is read back from its own text is a number.
-/

namespace QuantumJobs

theorem map_eq_self {α : Type} {items : List α} {f : α → α} :
    items.map f = items ↔ ∀ a ∈ items, f a = a := by
  simpa using List.map_inj_left (l := items) (f := f) (g := id)

namespace Json

/-! ## Values in key order -/

theorem sorted_arr_eq_self {items : List Json} :
    (Json.arr items).sorted = .arr items ↔ ∀ v ∈ items, v.sorted = v := by
  rw [sorted, sortedItems_eq_map, arr.injEq]
  exact map_eq_self

/-- An object is in key order exactly if its keys ascend and its values are in key order. -/
theorem sorted_obj_eq_self {fields : List (String × Json)} :
    (Json.obj fields).sorted = .obj fields ↔
      Entries.Ascending fields ∧ ∀ f ∈ fields, f.2.sorted = f.2 := by
  have keys : Entries.Ascending (sortedFields fields) ↔ Entries.Ascending fields := by
    rw [sortedFields_eq_map]
    exact List.pairwise_map
  rw [sorted_obj, obj.injEq]
  constructor
  · intro same
    have ascending : Entries.Ascending fields := by
      rw [← same]
      exact ascending_sortedEntries fields
    unfold sortedEntries at same
    rw [Entries.foldl_insert (keys.2 ascending), sortedFields_eq_map] at same
    refine ⟨ascending, ?_⟩
    intro f here
    have unchanged := map_eq_self.1 same f here
    exact congrArg Prod.snd unchanged
  · rintro ⟨ascending, values⟩
    unfold sortedEntries
    rw [Entries.foldl_insert (keys.2 ascending), sortedFields_eq_map]
    refine map_eq_self.2 ?_
    intro f here
    rw [values f here]

theorem mem_of_mem_foldl_insert {α : Type} {e : String × α} :
    ∀ {es before : List (String × α)},
      e ∈ es.foldl (fun acc f => Entries.insert f.1 f.2 acc) before → e ∈ es ∨ e ∈ before := by
  intro es
  induction es with
  | nil =>
      intro before here
      exact .inr here
  | cons f es ih =>
      intro before here
      rcases ih here with later | inserted
      · exact .inl (List.mem_cons_of_mem f later)
      · rcases Entries.mem_insert inserted with rfl | earlier
        · exact .inl List.mem_cons_self
        · exact .inr earlier

/-! ## What is read -/

/-- A value in key order that is nested no deeper than a limit. -/
structure Orderly (depth : Nat) (v : Json) : Prop where
  sorted : v.sorted = v
  nesting : v.nesting ≤ depth

/-- A reader of values gives only such values. -/
def ReadsOrderly (depth : Nat) (item : List Symbol → Reading (Json × List Symbol)) : Prop :=
  ∀ {cs v rest}, item cs = .ok (v, rest) → Orderly depth v

theorem orderly_arr {depth : Nat} {items : List Json} (each : ∀ v ∈ items, Orderly depth v) :
    Orderly (depth + 1) (.arr items) where
  sorted := sorted_arr_eq_self.2 fun v here => (each v here).sorted
  nesting := nesting_arr_le.2 fun v here => (each v here).nesting

theorem orderly_ofFields {depth : Nat} {fields : List (String × Json)}
    (each : ∀ f ∈ fields, Orderly depth f.2) : Orderly (depth + 1) (ofFields fields) := by
  have kept : ∀ f ∈ fields.foldl (fun es f => Entries.insert f.1 f.2 es) [], Orderly depth f.2 := by
    intro f here
    rcases mem_of_mem_foldl_insert here with given | none
    · exact each f given
    · cases none
  have ascending : Entries.Ascending
      (fields.foldl (fun es f => Entries.insert f.1 f.2 es) []) :=
    Entries.ascending_foldl_insert List.Pairwise.nil
  exact
    { sorted := sorted_obj_eq_self.2 ⟨ascending, fun f here => (kept f here).sorted⟩
      nesting := nesting_obj_le.2 fun f here => (kept f here).nesting }

section

variable {depth : Nat} {item : List Symbol → Reading (Json × List Symbol)}
  (orderly : ReadsOrderly depth item)

include orderly

/-- The items that are read are orderly if those before them are. -/
theorem orderly_readItems :
    ∀ {fuel : Nat} {acc items : List Json} {cs rest : List Symbol},
      (∀ v ∈ acc, Orderly depth v) → readItems item fuel acc cs = .ok (items, rest) →
        ∀ v ∈ items, Orderly depth v := by
  intro fuel
  induction fuel with
  | zero =>
      intro acc items cs rest _ read
      cases read
  | succ fuel ih =>
      intro acc items cs rest before read
      obtain ⟨⟨v, cs'⟩, first, read⟩ := of_bind_ok read
      have before' : ∀ w ∈ v :: acc, Orderly depth w :=
        List.forall_mem_cons.2 ⟨orderly first, before⟩
      simp only at read
      split at read
      · cases read
      · cases read
        exact before'
      · split at read
        · cases read
        · cases read
        · exact ih before' read
      · cases read

theorem orderly_readField {cs rest : List Symbol} {f : String × Json}
    (read : readField item cs = .ok (f, rest)) : Orderly depth f.2 := by
  obtain ⟨⟨key, cs'⟩, _, read⟩ := of_bind_ok read
  simp only at read
  split at read
  · cases read
  · obtain ⟨⟨v, cs''⟩, value, read⟩ := of_bind_ok read
    cases read
    exact orderly value
  · cases read

theorem orderly_readFields :
    ∀ {fuel : Nat} {acc fields : List (String × Json)} {cs rest : List Symbol},
      (∀ f ∈ acc, Orderly depth f.2) → readFields item fuel acc cs = .ok (fields, rest) →
        ∀ f ∈ fields, Orderly depth f.2 := by
  intro fuel
  induction fuel with
  | zero =>
      intro acc fields cs rest _ read
      cases read
  | succ fuel ih =>
      intro acc fields cs rest before read
      obtain ⟨⟨f, cs'⟩, first, read⟩ := of_bind_ok read
      have before' : ∀ g ∈ f :: acc, Orderly depth g.2 :=
        List.forall_mem_cons.2 ⟨orderly_readField orderly first, before⟩
      simp only at read
      split at read
      · cases read
      · cases read
        exact before'
      · split at read
        · cases read
        · exact ih before' read
        · cases read
      · cases read

theorem orderly_readArray : ReadsOrderly (depth + 1) (readArray item) := by
  intro cs v rest read
  unfold readArray at read
  split at read
  · cases read
  · cases read
    exact orderly_arr (List.forall_mem_nil _)
  · obtain ⟨⟨acc, rest'⟩, items, same⟩ := of_map_ok read
    cases same
    have each := orderly_readItems orderly (List.forall_mem_nil _) items
    exact orderly_arr fun w here => each w (List.mem_reverse.1 here)

theorem orderly_readObject : ReadsOrderly (depth + 1) (readObject item) := by
  intro cs v rest read
  unfold readObject at read
  split at read
  · cases read
  · cases read
    have none : ∀ f ∈ ([] : List (String × Json)), Orderly depth f.2 := List.forall_mem_nil _
    exact orderly_ofFields none
  · obtain ⟨⟨acc, rest'⟩, fields, same⟩ := of_map_ok read
    cases same
    have each := orderly_readFields orderly (List.forall_mem_nil _) fields
    exact orderly_ofFields fun f here => each f (List.mem_reverse.1 here)
  · cases read

end

theorem of_readWord {v w : Json} :
    ∀ {letters : List Char} {cs rest : List Symbol},
      readWord v letters cs = .ok (w, rest) → w = v := by
  intro letters
  induction letters with
  | nil =>
      intro cs rest read
      cases read
      rfl
  | cons l letters ih =>
      intro cs rest read
      cases cs with
      | nil => cases read
      | cons c cs =>
          unfold readWord at read
          split at read
          · exact ih read
          · cases read

theorem orderly_readNumber (depth : Nat) (negative : Bool) :
    ReadsOrderly depth (readNumber negative) := by
  intro cs v rest read
  -- Whether it is an integer or a float, a number is no array and no object.
  have flat : (∃ n, v = .int n) ∨ ∃ x, v = .float x := by
    obtain ⟨⟨whole, cs₁⟩, _, read⟩ := of_bind_ok read
    obtain ⟨⟨fraction, cs₂⟩, _, read⟩ := of_bind_ok read
    obtain ⟨⟨e, cs₃⟩, _, read⟩ := of_bind_ok read
    simp only at read
    split at read
    · split at read
      · cases read
        exact .inl ⟨_, rfl⟩
      · split at read
        · cases read
          exact .inr ⟨_, rfl⟩
        · cases read
    · split at read
      · cases read
        exact .inr ⟨_, rfl⟩
      · cases read
  rcases flat with ⟨n, rfl⟩ | ⟨x, rfl⟩
  · exact ⟨rfl, Nat.zero_le _⟩
  · exact ⟨rfl, Nat.zero_le _⟩

/-- A value is orderly if the values inside it are, which are read one level deeper. -/
theorem orderly_of_readValue {depth : Nat} {cs rest : List Symbol} {v : Json}
    (inside : ∀ inner, depth = inner + 1 → ReadsOrderly inner (readValue inner))
    (read : readValue depth cs = .ok (v, rest)) : Orderly depth v := by
  cases cs with
  | nil =>
      unfold readValue at read
      cases read
  | cons c cs =>
      unfold readValue at read
      -- The first symbol tells the kinds of values apart.
      by_cases string : c = some '"'
      · rw [if_pos string] at read
        obtain ⟨_, _, same⟩ := of_map_ok read
        cases same
        exact ⟨rfl, Nat.zero_le _⟩
      rw [if_neg string] at read
      by_cases array : c = some '['
      · rw [if_pos array] at read
        cases depth with
        | zero => cases read
        | succ inner => exact orderly_readArray (inside inner rfl) read
      rw [if_neg array] at read
      by_cases object : c = some '{'
      · rw [if_pos object] at read
        cases depth with
        | zero => cases read
        | succ inner => exact orderly_readObject (inside inner rfl) read
      rw [if_neg object] at read
      by_cases null : c = some 'n'
      · rw [if_pos null] at read
        rw [of_readWord read]
        exact ⟨rfl, Nat.zero_le _⟩
      rw [if_neg null] at read
      by_cases yes : c = some 't'
      · rw [if_pos yes] at read
        rw [of_readWord read]
        exact ⟨rfl, Nat.zero_le _⟩
      rw [if_neg yes] at read
      by_cases no : c = some 'f'
      · rw [if_pos no] at read
        rw [of_readWord read]
        exact ⟨rfl, Nat.zero_le _⟩
      rw [if_neg no] at read
      by_cases minus : c = some '-'
      · rw [if_pos minus] at read
        exact orderly_readNumber depth true read
      rw [if_neg minus] at read
      by_cases digit : isDigit c = true
      · rw [if_pos digit] at read
        exact orderly_readNumber depth false read
      · rw [if_neg digit] at read
        cases read

theorem orderly_readValue (depth : Nat) : ReadsOrderly depth (readValue depth) := by
  induction depth with
  | zero =>
      intro cs v rest read
      exact orderly_of_readValue (fun _ none => nomatch none) read
  | succ depth ih =>
      intro cs v rest read
      refine orderly_of_readValue ?_ read
      intro inner same
      cases same
      exact ih

/-- The contents of a file denote a value in key order that is nested no deeper than the reader
goes. -/
theorem orderly_of_ofBlob {b : Blob} {v : Json} (read : ofBlob b = .ok v) : Orderly maxDepth v := by
  obtain ⟨⟨w, rest⟩, value, read⟩ := of_bind_ok read
  by_cases ended : (skipSpace rest).isEmpty = true
  · simp only [if_pos ended] at read
    cases read
    exact orderly_readValue maxDepth value
  · simp only [if_neg ended] at read
    cases read

/-! ## Floats -/

section

open Float.Model

/-- Only one float is no number. -/
theorem eq_of_unpack_notANumber {x : Float} (nan : x.toModel.unpack = .notANumber) :
    x = 0.0 / 0.0 := by
  obtain ⟨⟨bits, valid⟩⟩ := x
  have packed : bits.toBitVec = UnpackedFloat.packedNaN Format.binary64 := by
    unfold unpack UnpackedFloat.unpack at nan
    by_cases exponent : @UnpackedFloat.unpackExponent .binary64 bits.toBitVec = -1#_
    · rw [if_pos exponent] at nan
      by_cases mantissa : @UnpackedFloat.unpackMantissa .binary64 bits.toBitVec = 0#_
      · rw [if_pos mantissa] at nan
        cases nan
      · exact valid.eq_packedNaN exponent mantissa
    -- every other exponent is that of a zero or of a finite float
    · rw [if_neg exponent] at nan
      by_cases zero : @UnpackedFloat.unpackExponent .binary64 bits.toBitVec = 0#_
      · rw [if_pos zero] at nan
        by_cases mantissa : @UnpackedFloat.unpackMantissa .binary64 bits.toBitVec = 0#_
        · rw [dif_pos mantissa] at nan
          cases nan
        · rw [dif_neg mantissa] at nan
          cases nan
      · rw [if_neg zero] at nan
        cases nan
  have same : bits = (0.0 / 0.0 : Float).toModel.toBits := by
    apply UInt64.eq_of_toBitVec_eq
    rw [packed]
    decide +kernel
  subst same
  rfl

theorem beq_self_of_unpack {f : UnpackedFloat} (number : f ≠ .notANumber) : f.beq f = true := by
  unfold UnpackedFloat.beq UnpackedFloat.compare
  cases f with
  | notANumber => exact absurd rfl number
  | infinity sign => cases sign <;> rfl
  | zero sign => rfl
  | finite sign mantissa exponent pos =>
      have same : (compare exponent exponent).then (compare mantissa mantissa) = .eq := by simp
      cases sign with
      | positive =>
          show (some ((compare exponent exponent).then (compare mantissa mantissa))
            == some .eq) = true
          rw [same]
          rfl
      | negative =>
          show (some ((compare exponent exponent).then (compare mantissa mantissa)).swap
            == some .eq) = true
          rw [same]
          rfl

end

/-- What is no number has a text that is not read at all. -/
theorem not_readBack_nan : ¬ ReadBack (.float (0.0 / 0.0)) := by
  have refused :
      (readValue 0 (symbols (scalarText (.float (0.0 / 0.0))))).toOption.isNone = true := by
    decide +kernel
  intro read
  rw [read] at refused
  cases refused

theorem beq_self_of_readBack {x : Float} (read : ReadBack (.float x)) : (x == x) = true := by
  apply beq_self_of_unpack
  intro nan
  rw [eq_of_unpack_notANumber nan] at read
  exact not_readBack_nan read

theorem beqItems_self_iff :
    ∀ {items : List Json}, beqItems items items = true ↔ ∀ v ∈ items, (v == v) = true
  | [] => by simp [beqItems]
  | v :: items => by
      unfold beqItems
      rw [Bool.and_eq_true, beqItems_self_iff, List.forall_mem_cons]
      exact Iff.rfl

theorem beqFields_self_iff :
    ∀ {fields : List (String × Json)},
      beqFields fields fields = true ↔ ∀ f ∈ fields, (f.2 == f.2) = true
  | [] => by simp [beqFields]
  | (k, v) :: fields => by
      unfold beqFields
      rw [beq_self_eq_true, Bool.true_and, Bool.and_eq_true, beqFields_self_iff,
        List.forall_mem_cons]
      exact Iff.rfl

/-- A value whose floats are read back equals itself. -/
theorem beq_self_of_legible {v : Json} (legible : v.Legible) : (v == v) = true := by
  induction legible with
  | null => rfl
  | bool b => exact beq_self_eq_true b
  | str s => exact beq_self_eq_true s
  | @int n _ => exact beq_self_eq_true n
  | float back => exact beq_self_of_readBack back
  | arr _ ih => exact beqItems_self_iff.2 ih
  | obj _ ih => exact beqFields_self_iff.2 ih

end Json
end QuantumJobs

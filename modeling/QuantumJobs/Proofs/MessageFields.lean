import QuantumJobs.Message

/-!
# MessageFields — what the accessors of a message give and refuse

Six of the seven accessors are strict: each gives exactly the value that an object stores under the
name, in the type that the accessor stands for, and refuses everything else as malformed, with the
whole message kept.  The seventh reads a text that may be absent or null.  It is as strict with
every object, but it goes its own way to the field, and there takes a message that is no object for
one in which the text is absent.
-/

namespace QuantumJobs
namespace Message

/-! ## Values stored in a message -/

/-- The message is an object, and the first of its fields with this name has this value. -/
inductive Stores : Json → String → Json → Prop where
  | intro {before after : List (String × Json)} {name : String} {v : Json} :
      (∀ e ∈ before, e.1 ≠ name) → Stores (.obj (before ++ (name, v) :: after)) name v

variable {m v : Json} {name : String}

theorem find?_append_of_absent {before after : List (String × Json)}
    (absent : ∀ e ∈ before, e.1 ≠ name) :
    Entries.find? (before ++ after) name = Entries.find? after name := by
  induction before with
  | nil => rfl
  | cons e before ih =>
      obtain ⟨other, rest⟩ := List.forall_mem_cons.1 absent
      rw [List.cons_append, Entries.find?, if_neg other]
      exact ih rest

theorem stores_of_find? :
    ∀ {fields : List (String × Json)}, Entries.find? fields name = some v →
      Stores (.obj fields) name v := by
  intro fields
  -- The fields that are passed over are those before the one that is found.
  induction fields with
  | nil => exact nofun
  | cons e rest ih =>
      intro found
      obtain ⟨key, w⟩ := e
      rw [Entries.find?] at found
      by_cases here : key = name
      · rw [if_pos here] at found
        cases found
        cases here
        exact @Stores.intro [] _ _ _ nofun
      · rw [if_neg here] at found
        obtain ⟨absent⟩ := ih found
        exact @Stores.intro ((key, w) :: _) _ _ _ (List.forall_mem_cons.2 ⟨here, absent⟩)

/-- What is stored is what the lookup finds. -/
theorem stores_iff : Stores m name v ↔ m.get? name = some v := by
  constructor
  · rintro ⟨absent⟩
    rw [Json.get?, find?_append_of_absent absent, Entries.find?, if_pos rfl]
  · intro found
    cases m with
    | obj fields => exact stores_of_find? found
    | _ => cases found

theorem get?_eq_none_iff : m.get? name = none ↔ ∀ v, ¬ Stores m name v := by
  simp [stores_iff, Option.eq_none_iff_forall_ne_some]

/-! ## Strict access -/

/-- What a strict accessor answers: the stored value as the one of its type that it shows, or else
the first of three reasons why there is none, with the message. -/
inductive Answers {α : Type} (shows : Json → α → Prop) (what : String) (m : Json) (name : String) :
    Outcome α → Prop where
  | given {v : Json} {a : α} : Stores m name v → shows v a → Answers shows what m name (.ok a)
  | noObject : (∀ fields, m ≠ .obj fields) →
      Answers shows what m name
        (.error (.malformedResponse ("expected an object containing '" ++ name ++ "'") m))
  | absent {fields : List (String × Json)} : m = .obj fields → (∀ v, ¬ Stores m name v) →
      Answers shows what m name (.error (.malformedResponse ("missing field '" ++ name ++ "'") m))
  | otherType {v : Json} : Stores m name v → (∀ a, ¬ shows v a) →
      Answers shows what m name
        (.error (.malformedResponse ("field '" ++ name ++ "' is not " ++ what) m))

/-- An accessor answers as a strict one does, and not otherwise. -/
def Strict {α : Type} (access : Json → String → Outcome α) (shows : Json → α → Prop)
    (what : String) (m : Json) (name : String) : Prop :=
  ∀ answer, Answers shows what m name answer ↔ access m name = answer

theorem field_of_stores (stored : Stores m name v) : field m name = .ok v := by
  have found := stores_iff.1 stored
  cases stored
  rw [Json.get?] at found
  simp [field, found]

theorem field_of_absent {fields : List (String × Json)}
    (absent : ∀ v, ¬ Stores (.obj fields) name v) :
    field (.obj fields) name
      = .error (.malformedResponse ("missing field '" ++ name ++ "'") (.obj fields)) := by
  have nothing : Entries.find? fields name = none := get?_eq_none_iff.2 absent
  simp [field, nothing]

theorem field_of_noObject (noObject : ∀ fields, m ≠ .obj fields) :
    field m name
      = .error (.malformedResponse ("expected an object containing '" ++ name ++ "'") m) := by
  cases m with
  | obj fields => exact absurd rfl (noObject fields)
  | _ => rfl

section

variable {α : Type} {shows : Json → α → Prop} {what : String}

/-- Every message and name is answered in one of the ways. -/
theorem answers_total (shows : Json → α → Prop) (what : String) (m : Json) (name : String) :
    ∃ answer, Answers shows what m name answer := by
  by_cases object : ∃ fields, m = .obj fields
  · obtain ⟨fields, same⟩ := object
    by_cases present : ∃ v, Stores m name v
    · obtain ⟨v, stored⟩ := present
      by_cases shown : ∃ a, shows v a
      · obtain ⟨a, shown⟩ := shown
        exact ⟨_, .given stored shown⟩
      · exact ⟨_, .otherType stored (not_exists.1 shown)⟩
    · exact ⟨_, .absent same (not_exists.1 present)⟩
  · exact ⟨_, .noObject (not_exists.1 object)⟩

/-- An accessor that does what a strict one does is strict, since a strict one does something. -/
theorem strict_of_answers {access : Json → String → Outcome α}
    (follows : ∀ answer, Answers shows what m name answer → access m name = answer) :
    Strict access shows what m name := by
  intro answer
  refine ⟨follows answer, ?_⟩
  rintro rfl
  obtain ⟨answer, answers⟩ := answers_total shows what m name
  rw [follows answer answers]
  exact answers

theorem strict_field (m : Json) (name : String) :
    Strict field (fun v w => v = w) "there" m name := by
  apply strict_of_answers
  intro answer answers
  cases answers with
  | given stored shown =>
      cases shown
      exact field_of_stores stored
  | noObject noObject => exact field_of_noObject noObject
  | absent same absent =>
      subst same
      exact field_of_absent absent
  | otherType _ differs => exact absurd rfl (differs _)

/-- An accessor that views the value of a field in a type is strict. -/
theorem strict_fieldAs {view : Json → Option α} (views : ∀ v a, view v = some a ↔ shows v a)
    (what : String) (m : Json) (name : String) : Strict (fieldAs view what) shows what m name := by
  apply strict_of_answers
  intro answer answers
  unfold fieldAs
  cases answers with
  | given stored shown =>
      rw [field_of_stores stored]
      simp [bind, Except.bind, (views _ _).2 shown]
  | noObject noObject =>
      rw [field_of_noObject noObject]
      rfl
  | absent same absent =>
      subst same
      rw [field_of_absent absent]
      rfl
  | @otherType v stored differs =>
      rw [field_of_stores stored]
      have unseen : view v = none := by
        simpa [Option.eq_none_iff_forall_ne_some, views] using differs
      simp [bind, Except.bind, unseen]

end

/-! ## The types of fields -/

theorem asString?_eq_some {s : String} : v.asString? = some s ↔ v = .str s := by
  cases v <;> simp [Json.asString?]

theorem asSigned?_eq_some {n : Int} :
    v.asSigned? = some n ↔
      v = .int n ∧ -9223372036854775808 ≤ n ∧ n ≤ 9223372036854775807 := by
  cases v with
  | int k =>
      show (if Json.minSigned ≤ k ∧ k ≤ Json.maxSigned then some k else none) = some n ↔ _
      rw [Option.ite_none_right_eq_some, Option.some.injEq, Json.int.injEq]
      constructor
      · rintro ⟨inside, rfl⟩
        exact ⟨rfl, inside⟩
      · rintro ⟨rfl, inside⟩
        exact ⟨inside, rfl⟩
  | _ => simp [Json.asSigned?]

theorem asUnsigned?_eq_some {n : Nat} :
    v.asUnsigned? = some n ↔ v = .int n ∧ n ≤ 18446744073709551615 := by
  cases v with
  | int k =>
      show (if 0 ≤ k ∧ k ≤ 18446744073709551615 then some k.toNat else none) = some n ↔ _
      rw [Option.ite_none_right_eq_some, Option.some.injEq, Json.int.injEq]
      omega
  | _ => simp [Json.asUnsigned?]

/-! ## A text that may be absent -/

/-- What a strict accessor answers of a text that may be absent or null. -/
inductive AnswersOptional (m : Json) (name : String) : Outcome (Option String) → Prop where
  | given {s : String} : Stores m name (.str s) → AnswersOptional m name (.ok (some s))
  | null : Stores m name .null → AnswersOptional m name (.ok none)
  | absent {fields : List (String × Json)} : m = .obj fields → (∀ v, ¬ Stores m name v) →
      AnswersOptional m name (.ok none)
  | noObject : (∀ fields, m ≠ .obj fields) →
      AnswersOptional m name
        (.error (.malformedResponse ("expected an object containing '" ++ name ++ "'") m))
  | otherType {v : Json} : Stores m name v → v ≠ .null → (∀ s, v ≠ .str s) →
      AnswersOptional m name
        (.error (.malformedResponse ("field '" ++ name ++ "' is not a string") m))

theorem get?_of_noObject (noObject : ∀ fields, m ≠ .obj fields) : m.get? name = none := by
  rw [get?_eq_none_iff]
  rintro v ⟨⟩
  exact noObject _ rfl

/-- A default stands for the fault. -/
theorem optionalText_of_noObject (noObject : ∀ fields, m ≠ .obj fields) :
    optionalText m name = .ok none := by
  unfold optionalText
  rw [get?_of_noObject noObject]

theorem optionalText_of_answers {answer : Outcome (Option String)}
    (object : ∃ fields, m = .obj fields) (answers : AnswersOptional m name answer) :
    optionalText m name = answer := by
  unfold optionalText
  cases answers with
  | given stored => rw [stores_iff.1 stored]
  | null stored => rw [stores_iff.1 stored]
  | absent _ absent => rw [get?_eq_none_iff.2 absent]
  | noObject noObject =>
      obtain ⟨fields, same⟩ := object
      exact absurd same (noObject fields)
  | @otherType v stored notNull noText =>
      rw [stores_iff.1 stored]
      cases v with
      | null => exact absurd rfl notNull
      | str s => exact absurd rfl (noText s)
      | _ => rfl

theorem answersOptional_total (object : ∃ fields, m = .obj fields) (name : String) :
    ∃ answer, AnswersOptional m name answer := by
  obtain ⟨fields, same⟩ := object
  cases found : m.get? name with
  | none => exact ⟨_, .absent same (get?_eq_none_iff.1 found)⟩
  | some v =>
      have stored := stores_iff.2 found
      cases v with
      | null => exact ⟨_, .null stored⟩
      | str s => exact ⟨_, .given stored⟩
      | _ => exact ⟨_, .otherType stored nofun nofun⟩

/-- The accessor of such a text is strict with objects, and only with them. -/
theorem answersOptional_iff_object :
    (∀ answer, AnswersOptional m name answer ↔ optionalText m name = answer) ↔
      ∃ fields, m = .obj fields := by
  constructor
  · intro strict
    by_cases object : ∃ fields, m = .obj fields
    · exact object
    · have noObject := not_exists.1 object
      have refused := (strict _).1 (.noObject noObject)
      rw [optionalText_of_noObject noObject] at refused
      cases refused
  · intro object answer
    refine ⟨optionalText_of_answers object, ?_⟩
    rintro rfl
    obtain ⟨answer, answers⟩ := answersOptional_total object name
    rw [optionalText_of_answers object answers]
    exact answers

/-! ## All accessors -/

/-- For every message and every name: the field itself, a text, a signed and an unsigned integer, an
object and an array are accessed strictly.  What is given is exactly what the message, an object,
stores under the name; integers are accepted exactly if they fit sixty-four bits, with a sign or
without.  Everything else is refused as malformed with the whole message: that it is no object, that
it has no such field, or that the field has another type.  A text that may be absent is accessed
strictly if and only if the message is an object: then nothing is given only if the text is absent
or null.  If the message is no object, nothing is given where it should be refused. -/
theorem accessors_answer (m : Json) (name : String) :
    Strict field (fun v w => v = w) "there" m name ∧
    Strict text (fun v s => v = .str s) "a string" m name ∧
    Strict signed (fun v n => v = .int n ∧ -9223372036854775808 ≤ n ∧ n ≤ 9223372036854775807)
      "an integer" m name ∧
    Strict unsigned (fun v n => v = .int n ∧ n ≤ 18446744073709551615)
      "a non-negative integer" m name ∧
    Strict object (fun v fields => v = .obj fields) "an object" m name ∧
    Strict array (fun v items => v = .arr items) "an array" m name ∧
    ((∀ answer, AnswersOptional m name answer ↔ optionalText m name = answer) ↔
      ∃ fields, m = .obj fields) ∧
    ((∀ fields, m ≠ .obj fields) → optionalText m name = .ok none) := by
  refine ⟨strict_field m name, ?_, ?_, ?_, ?_, ?_, answersOptional_iff_object,
    optionalText_of_noObject⟩
  · exact strict_fieldAs (fun _ _ => asString?_eq_some) _ m name
  · exact strict_fieldAs (fun _ _ => asSigned?_eq_some) _ m name
  · exact strict_fieldAs (fun _ _ => asUnsigned?_eq_some) _ m name
  · refine strict_fieldAs ?_ _ m name
    intro v fields
    cases v <;> simp
  · refine strict_fieldAs ?_ _ m name
    intro v items
    cases v <;> simp

/-- An array has no fields, yet it is not refused: the text counts as absent from it. -/
theorem absent_from_array :
    optionalText (.arr [.str "not", .str "an", .str "object"]) "id" = .ok none ∧
      ¬ ∀ m name, optionalText m name = .ok none →
        ∃ fields, m = .obj fields ∧ ((∀ v, ¬ Stores m name v) ∨ Stores m name .null) := by
  refine ⟨rfl, ?_⟩
  intro onlyObjects
  obtain ⟨_, same, _⟩ := onlyObjects (.arr [.str "not", .str "an", .str "object"]) "id" rfl
  cases same

end Message
end QuantumJobs

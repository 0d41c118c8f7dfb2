import QuantumJobs.Proofs.DictLookup
import QuantumJobs.Proofs.StoredHandles

/-!
# TreeChanges — which files an operation changes

Making directories adds entries to a tree and takes none away, and it adds no file.  Whatever could
be read before is read after it, and no file is new or other than before.  Saving a file makes
directories and puts that one file in its place, so it is the only one that may have changed.  It
can then be saved once more with any contents.
-/

namespace QuantumJobs
namespace Files
namespace Tree

variable {t t' t'' : Tree} {p : Path} {contents : Blob}

/-! ## Trees that grow by directories -/

/-- The second tree has all entries of the first, and no other files. -/
structure Grown (t t' : Tree) : Prop where
  current : t'.current = t.current
  stays : ∀ l e, t.entries.get? l = some e → t'.entries.get? l = some e
  files : ∀ l c, t'.entries.get? l = some (.file c) → t.entries.get? l = some (.file c)

namespace Grown

theorem refl (t : Tree) : Grown t t := ⟨rfl, fun _ _ here => here, fun _ _ here => here⟩

theorem trans (first : Grown t t') (second : Grown t' t'') : Grown t t'' where
  current := second.current.trans first.current
  stays l e here := second.stays l e (first.stays l e here)
  files l c here := first.files l c (second.files l c here)

/-- A directory in a place where nothing was. -/
theorem put_directory {l : Location} (free : t.entries.get? l.text = none) :
    Grown t (t.put l .directory) where
  current := rfl
  stays key e here := by
    show (t.entries.insert l.text .directory).get? key = some e
    rw [Dict.get?_insert]
    by_cases same : l.text = key
    · rw [← same, free] at here
      cases here
    · rw [if_neg same]
      exact here
  files key c here := by
    have found : (t.entries.insert l.text .directory).get? key = some (.file c) := here
    rw [Dict.get?_insert] at found
    by_cases same : l.text = key
    · rw [if_pos same] at found
      cases found
    · rw [if_neg same] at found
      exact found

theorem entry? (grown : Grown t t') {l : Location} {e : Entry} (here : t.entry? l = some e) :
    t'.entry? l = some e := by
  unfold Tree.entry? at here ⊢
  by_cases root : l.isEmpty = true
  · rw [if_pos root] at here ⊢
    exact here
  · rw [if_neg root] at here ⊢
    exact grown.stays _ _ here

/-- What could be read is read as before. -/
theorem read (grown : Grown t t') (read : t.read p = .ok contents) : t'.read p = .ok contents := by
  obtain ⟨dir, name, names, here⟩ := read_eq_ok.1 read
  have located := locate_mono (fun _ => grown.entry?) grown.current names.located
  exact read_eq_ok.2 ⟨dir, name, ⟨located, names.noSlash, names.short⟩, grown.entry? here⟩

end Grown

/-! ## Making directories -/

theorem grown_makeDirectory (made : t.makeDirectory p = .ok t') : Grown t t' := by
  unfold makeDirectory at made
  obtain ⟨target, _, made⟩ := of_bind_ok made
  cases target with
  | directory => cases made
  | named dir name =>
      obtain ⟨entry, looked, made⟩ := of_bind_ok made
      cases entry with
      | some _ => cases made
      | none =>
          cases made
          unfold lookUp at looked
          split at looked
          · cases looked
          · have nothing : t.entry? (dir ++ [name]) = none := Except.ok.inj looked
            rw [entry?_append] at nothing
            exact .put_directory nothing

theorem grown_ensureDirectory (made : t.ensureDirectory p = .ok t') : Grown t t' := by
  unfold ensureDirectory at made
  cases first : t.makeDirectory p with
  | ok after =>
      rw [first] at made
      cases made
      exact grown_makeDirectory first
  | error fault =>
      rw [first] at made
      simp only at made
      split at made
      · cases made
        exact .refl t
      · cases made

theorem grown_makeAll (absolute : Bool) :
    ∀ (segments : List String) {t t' : Tree}, t.makeAll absolute segments = .ok t' → Grown t t' := by
  intro segments
  induction segments with
  | nil =>
      intro t t' made
      cases made
      exact .refl t
  | cons last parents ih =>
      intro t t' made
      unfold makeAll at made
      simp only at made
      split at made
      · -- The parent is missing, so the parents are made first.
        obtain ⟨between, parentsMade, made⟩ := of_bind_ok made
        exact (ih parentsMade).trans (grown_ensureDirectory made)
      · exact grown_ensureDirectory made

theorem grown_makeDirectories (made : t.makeDirectories p = .ok t') : Grown t t' :=
  grown_makeAll _ _ made

theorem grown_makeParents (made : t.makeParents p = .ok t') : Grown t t' :=
  grown_makeAll _ _ made

/-! ## Changed files -/

theorem mem_changes {before after : Tree} {l : String} :
    (l, contents) ∈ changes before after ↔
      after.entries.get? l = some (.file contents) ∧
        before.entries.get? l ≠ some (.file contents) := by
  unfold changes
  rw [List.mem_filterMap]
  constructor
  · rintro ⟨⟨key, e⟩, here, changed⟩
    -- Names occur once, so what is listed under a name is what is found under it.
    have found := Entries.find?_of_mem after.entries.ascending here
    cases e with
    | directory => cases changed
    | file c =>
        simp only at changed
        split at changed
        · cases changed
        · rename_i other
          cases changed
          exact ⟨found, other⟩
  · rintro ⟨found, other⟩
    refine ⟨(l, .file contents), Entries.mem_of_find? found, ?_⟩
    simp only [if_neg other]

theorem changes_of_grown (grown : Grown t t') : changes t t' = [] := by
  rw [List.eq_nil_iff_forall_not_mem]
  rintro ⟨l, c⟩ changed
  obtain ⟨here, other⟩ := mem_changes.1 changed
  exact other (grown.files l c here)

/-- A save changes no file but the one that is saved. -/
theorem changes_of_save (grown : Grown t t') (saved : t'.save p contents = .ok t'')
    {e : String × Blob} (changed : e ∈ changes t t'') : e.2 = contents := by
  obtain ⟨l, c⟩ := e
  obtain ⟨here, other⟩ := mem_changes.1 changed
  obtain ⟨between, made, written⟩ := of_bind_ok saved
  obtain ⟨dir, name, _, _, rfl⟩ := put_of_write written
  have found : (between.entries.insert (Location.text (dir ++ [name])) (.file contents)).get? l
      = some (.file c) := here
  rw [Dict.get?_insert] at found
  split at found
  · cases found
    rfl
  · exact absurd ((grown.trans (grown_makeParents made)).files l c found) other

/-! ## Saving once more -/

/-- The second tree has all directories of the first, and relative paths start where they did. -/
structure Spans (t t' : Tree) : Prop where
  current : t'.current = t.current
  directory : ∀ l, t.entry? l = some .directory → t'.entry? l = some .directory

theorem Grown.spans (grown : Grown t t') : Spans t t' := ⟨grown.current, fun _ => grown.entry?⟩

/-- Nothing is put in the place of a directory by a write. -/
theorem spans_of_write (written : t.write p contents = .ok t') : Spans t t' := by
  obtain ⟨_, _, _, free, rfl⟩ := put_of_write written
  exact ⟨rfl, fun _ => entry?_put_directory free _⟩

/-- There is a directory at a path if the path leads through directories to the end, or to a name
under which one stands. -/
theorem isDirectory_iff :
    t.isDirectory p = true ↔
      t.locate p = .ok .directory ∨
        ∃ dir name, t.locate p = .ok (.named dir name) ∧ ¬ nameLimit < name.utf8ByteSize ∧
          t.entry? (dir ++ [name]) = some .directory := by
  unfold isDirectory find
  cases located : t.locate p with
  | error fault => simp [Bind.bind, Except.bind]
  | ok target =>
      cases target with
      | directory => simp [Bind.bind, Except.bind]
      | named dir name =>
          by_cases long : nameLimit < name.utf8ByteSize
          · simp [Bind.bind, Except.bind, lookUp, long]
          · cases here : t.entry? (dir ++ [name]) with
            | none => simp [Bind.bind, Except.bind, lookUp, long, here]
            | some e =>
                cases e with
                | directory =>
                    simp [Bind.bind, Except.bind, lookUp, long, here, Nat.not_lt.1 long]
                | file c =>
                    by_cases slash : Path.endsInSlash p = true
                    · simp [Bind.bind, Except.bind, lookUp, long, here, slash]
                    · simp [Bind.bind, Except.bind, lookUp, long, here, slash]

theorem Spans.isDirectory (spans : Spans t t') (there : t.isDirectory p = true) :
    t'.isDirectory p = true := by
  rw [isDirectory_iff] at there ⊢
  rcases there with located | ⟨dir, name, located, short, here⟩
  · exact .inl (locate_mono spans.directory spans.current located)
  · exact .inr ⟨dir, name, locate_mono spans.directory spans.current located, short,
      spans.directory _ here⟩

theorem isDirectory_of_makeDirectory (made : t.makeDirectory p = .ok t') :
    t'.isDirectory p = true := by
  unfold makeDirectory at made
  obtain ⟨target, located, made⟩ := of_bind_ok made
  cases target with
  | directory => cases made
  | named dir name =>
      obtain ⟨entry, looked, made⟩ := of_bind_ok made
      cases entry with
      | some _ => cases made
      | none =>
          cases made
          unfold lookUp at looked
          split at looked
          · cases looked
          · rename_i short
            have nothing : t.entry? (dir ++ [name]) = none := Except.ok.inj looked
            have free : t.entry? (dir ++ [name]) ≠ some .directory := by
              rw [nothing]
              exact nofun
            exact isDirectory_iff.2 (.inr ⟨dir, name, locate_put free .directory located, short,
              entry?_put_self t (by simp) .directory⟩)

theorem isDirectory_of_ensureDirectory (made : t.ensureDirectory p = .ok t') :
    t'.isDirectory p = true := by
  unfold ensureDirectory at made
  cases first : t.makeDirectory p with
  | ok after =>
      rw [first] at made
      cases made
      exact isDirectory_of_makeDirectory first
  | error fault =>
      rw [first] at made
      simp only at made
      split at made
      · rename_i there
        cases made
        exact there
      · cases made

/-- The directory that was to be made is there. -/
theorem isDirectory_of_makeAll {absolute : Bool} {last : String} {parents : List String}
    (made : t.makeAll absolute (last :: parents) = .ok t') :
    t'.isDirectory (pathOf absolute (last :: parents).reverse) = true := by
  unfold makeAll at made
  simp only at made
  split at made
  · obtain ⟨_, _, made⟩ := of_bind_ok made
    exact isDirectory_of_ensureDirectory made
  · exact isDirectory_of_ensureDirectory made

/-- A directory that is there need not be made. -/
theorem makeAll_of_isDirectory {absolute : Bool} {last : String} {parents : List String}
    (there : t.isDirectory (pathOf absolute (last :: parents).reverse) = true) :
    ∃ t', t.makeAll absolute (last :: parents) = .ok t' := by
  have found : ∃ t', t.ensureDirectory (pathOf absolute (last :: parents).reverse) = .ok t' := by
    unfold ensureDirectory
    split
    · exact ⟨_, rfl⟩
    · exact ⟨t, by rw [if_pos there]⟩
  obtain ⟨t', found⟩ := found
  refine ⟨t', ?_⟩
  unfold makeAll
  simp only [found]

/-- Directories that have been made can be made again. -/
theorem makeAll_again {absolute : Bool} {segments : List String}
    (made : t.makeAll absolute segments = .ok t') (spans : Spans t' t'') :
    ∃ after, t''.makeAll absolute segments = .ok after := by
  cases segments with
  | nil => exact ⟨t'', rfl⟩
  | cons last parents => exact makeAll_of_isDirectory (spans.isDirectory (isDirectory_of_makeAll made))

theorem write_of_namesFile {dir : Location} {name : String} (names : NamesFile t p dir name)
    (free : t.entry? (dir ++ [name]) ≠ some .directory) (contents : Blob) :
    ∃ t', t.write p contents = .ok t' := by
  unfold write lookUp
  rw [names.located]
  simp only [Bind.bind, Except.bind, names.noSlash, names.short, if_false, Bool.false_eq_true]
  cases here : t.entry? (dir ++ [name]) with
  | none => exact ⟨_, rfl⟩
  | some e =>
      cases e with
      | directory => exact absurd here free
      | file _ => exact ⟨_, rfl⟩

/-- Where a file has been saved, another can be saved in its place. -/
theorem save_again (saved : t.save p contents = .ok t') (other : Blob) :
    ∃ t'', t'.save p other = .ok t'' := by
  obtain ⟨between, made, written⟩ := of_bind_ok saved
  obtain ⟨after, madeAgain⟩ : ∃ after, t'.makeParents p = .ok after :=
    makeAll_again made (spans_of_write written)
  -- The file is still there, under the same name.
  obtain ⟨dir, name, names, here⟩ := read_eq_ok.1 (read_write written)
  have grown := grown_makeParents madeAgain
  have still := grown.entry? here
  have located := locate_mono grown.spans.directory grown.current names.located
  have free : after.entry? (dir ++ [name]) ≠ some .directory := by
    rw [still]
    exact nofun
  obtain ⟨t'', again⟩ := write_of_namesFile ⟨located, names.noSlash, names.short⟩ free other
  refine ⟨t'', ?_⟩
  unfold save
  rw [madeAgain]
  exact again

end Tree
end Files

end QuantumJobs

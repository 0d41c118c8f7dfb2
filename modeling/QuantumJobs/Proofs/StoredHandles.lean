import QuantumJobs.Handle.Storage
import QuantumJobs.Proofs.RecordText

/-!
# StoredHandles — files written and read, and the handles in them

What is written to a path is read from it.  The file that a write puts into the tree stands where no
directory was, so every path that led through directories still leads where it led.  A handle that
is saved is therefore loaded as what the text of its record is read back as.
-/

namespace QuantumJobs
namespace Files
namespace Tree

variable {t t' : Tree} {p : Path} {contents : Blob}

/-! ## Writing a file -/

/-- A name in a directory is never the root. -/
theorem entry?_append (t : Tree) (dir : Location) (name : String) :
    t.entry? (dir ++ [name]) = t.entries.get? (Location.text (dir ++ [name])) := by
  simp [ entry?]

/-- What has been put at a location is there. -/
theorem entry?_put_self (t : Tree) {l : Location} (below : l ≠ []) (e : Entry) :
    entry? (t.put l e) l = some e := by
  have nonempty : l.isEmpty = false := by simpa using below
  simp [ entry?, put, nonempty, Dict.get?, Dict.insert]

/-- Directories stay when something is put where none of them is. -/
theorem entry?_put_directory {l m : Location} (free : t.entry? l ≠ some .directory) (e : Entry)
    (directory : t.entry? m = some .directory) : entry? (t.put l e) m = some .directory := by
  unfold entry? at directory free ⊢
  by_cases root : m.isEmpty = true
  · simp [root]
  · by_cases top : l.isEmpty = true
    · simp [top] at free
    · simp only [root, top, if_false, Bool.false_eq_true] at directory free ⊢
      have other : ¬ l.text = m.text := by
        intro same
        rw [same] at free
        exact free directory
      simpa [put, Dict.get?, Dict.insert, other] using directory

/-! ## Where paths lead -/

/-- Segments lead from one location to another: `..` leads up, and every other segment leads down
into a directory. -/
inductive Walks (t : Tree) : Location → List String → Location → Prop where
  | arrived (l : Location) : Walks t l [] l
  | up {l target : Location} {rest : List String} :
      Walks t l.dropLast rest target → Walks t l (".." :: rest) target
  | down {l target : Location} {s : String} {rest : List String} :
      s ≠ ".." → ¬ nameLimit < s.utf8ByteSize → t.entry? (l ++ [s]) = some .directory →
        Walks t (l ++ [s]) rest target → Walks t l (s :: rest) target

theorem walks_of_walk {target : Location} :
    ∀ {segments : List String} {start : Location},
      t.walk start segments = .ok target → Walks t start segments target := by
  intro segments
  induction segments with
  | nil =>
      intro start walked
      cases walked
      exact .arrived target
  | cons s rest ih =>
      intro start walked
      unfold walk at walked
      split at walked
      · rename_i up
        subst up
        exact .up (ih walked)
      rename_i down
      split at walked
      · cases walked
      rename_i short
      split at walked
      · cases walked
      · cases walked
      · rename_i here
        exact .down down short here (ih walked)

theorem Walks.walk_eq {start target : Location} {segments : List String}
    (walks : Walks t start segments target) : t.walk start segments = .ok target := by
  induction walks with
  | arrived l => rfl
  | up _ ih =>
      unfold walk
      rw [if_pos rfl]
      exact ih
  | down down short here _ ih =>
      unfold walk
      rw [if_neg down, if_neg short, here]
      exact ih

/-- A walk leads through any tree that has the same directories to the same place. -/
theorem Walks.mono (kept : ∀ l, t.entry? l = some .directory → t'.entry? l = some .directory)
    {start target : Location} {segments : List String} (walks : Walks t start segments target) :
    Walks t' start segments target := by
  induction walks with
  | arrived l => exact .arrived l
  | up _ ih => exact .up ih
  | down down short here _ ih => exact .down down short (kept _ here) ih

/-- A path that can be followed at all: it is neither refused for its characters nor for its
length. -/
structure Followable (p : Path) : Prop where
  noNul : p.toList.contains '\x00' = false
  notEmpty : p ≠ ""
  short : ¬ pathLimit < p.utf8ByteSize

/-- Where relative and absolute paths start. -/
def startOf (t : Tree) (p : Path) : Location := if Path.isAbsolute p then [] else t.current

/-- A path leads to the name at its end, or to a directory if it ends in none. -/
inductive Leads (t : Tree) (p : Path) : Target → Prop where
  | named {dir : Location} {name : String} : Followable p → Path.lastName? p = some name →
      Walks t (startOf t p) (Path.segments p).dropLast dir → Leads t p (.named dir name)
  | directory {l : Location} : Followable p → Path.lastName? p = none →
      Walks t (startOf t p) (Path.segments p) l → Leads t p .directory

theorem locate_eq_ok {target : Target} : t.locate p = .ok target ↔ Leads t p target := by
  constructor
  · intro located
    unfold locate at located
    simp only at located
    split at located
    · cases located
    rename_i noNul
    split at located
    · cases located
    rename_i notEmpty
    split at located
    · cases located
    rename_i short
    have followable : Followable p := ⟨by simpa using noNul, notEmpty, short⟩
    split at located
    · rename_i name last
      obtain ⟨dir, walked, rfl⟩ := of_map_ok located
      exact .named followable last (walks_of_walk walked)
    · rename_i last
      obtain ⟨l, walked, rfl⟩ := of_map_ok located
      exact .directory followable last (walks_of_walk walked)
  · intro leads
    unfold locate
    cases leads with
    | named followable last walks =>
        simp only [followable.noNul, followable.notEmpty, followable.short, last, if_false,
          Bool.false_eq_true]
        exact congrArg (Except.map _) walks.walk_eq
    | directory followable last walks =>
        simp only [followable.noNul, followable.notEmpty, followable.short, last, if_false,
          Bool.false_eq_true]
        exact congrArg (Except.map _) walks.walk_eq

/-- A path leads through any tree that has the same directories to the same place. -/
theorem locate_mono (kept : ∀ l, t.entry? l = some .directory → t'.entry? l = some .directory)
    (current : t'.current = t.current) {target : Target} (located : t.locate p = .ok target) :
    t'.locate p = .ok target := by
  have start : startOf t' p = startOf t p := by
    unfold startOf
    rw [current]
  rw [locate_eq_ok] at located ⊢
  cases located with
  | named followable last walks => exact .named followable last (start ▸ walks.mono kept)
  | directory followable last walks => exact .directory followable last (start ▸ walks.mono kept)

theorem locate_put {l : Location} (free : t.entry? l ≠ some .directory) (e : Entry)
    {target : Target} (located : t.locate p = .ok target) : (t.put l e).locate p = .ok target :=
  locate_mono (fun _ => entry?_put_directory free e) rfl located

/-- The path leads to a name at which a file can stand. -/
structure NamesFile (t : Tree) (p : Path) (dir : Location) (name : String) : Prop where
  located : t.locate p = .ok (.named dir name)
  noSlash : Path.endsInSlash p = false
  short : ¬ nameLimit < name.utf8ByteSize

/-- What is read is the file at the name to which the path leads. -/
theorem read_eq_ok : t.read p = .ok contents ↔
    ∃ dir name, NamesFile t p dir name ∧ t.entry? (dir ++ [name]) = some (.file contents) := by
  constructor
  · intro read
    unfold Tree.read find at read
    obtain ⟨e, found, read⟩ := of_bind_ok read
    obtain ⟨target, located, found⟩ := of_bind_ok found
    cases target with
    | directory =>
        cases found
        cases read
    | named dir name =>
        obtain ⟨entry, looked, found⟩ := of_bind_ok found
        unfold lookUp at looked
        split at looked
        · cases looked
        · rename_i short
          rw [Except.ok.injEq] at looked
          rcases entry with _ | _ | c
          · cases found
          · cases found
            cases read
          · simp only at found
            split at found
            · cases found
            · rename_i noSlash
              cases found
              cases read
              exact ⟨dir, name, ⟨located, by simpa using noSlash, short⟩, looked⟩
  · rintro ⟨dir, name, ⟨located, noSlash, short⟩, here⟩
    simp [read, find, located, lookUp, short, here, noSlash, Bind.bind, Except.bind]

/-- A write puts the file where the path leads, and no directory was there. -/
theorem put_of_write (written : t.write p contents = .ok t') :
    ∃ dir name, NamesFile t p dir name ∧ t.entry? (dir ++ [name]) ≠ some .directory ∧
      t' = t.put (dir ++ [name]) (.file contents) := by
  unfold write at written
  obtain ⟨target, located, written⟩ := of_bind_ok written
  cases target with
  | directory => cases written
  | named dir name =>
      by_cases slash : Path.endsInSlash p = true
      · simp [slash] at written
      · simp only [slash, if_false, Bool.false_eq_true] at written
        obtain ⟨entry, looked, written⟩ := of_bind_ok written
        unfold lookUp at looked
        split at looked
        · cases looked
        · rename_i short
          rw [Except.ok.injEq] at looked
          refine ⟨dir, name, ⟨located, by simpa using slash, short⟩, ?_, ?_⟩
          · intro directory
            rw [directory] at looked
            rw [← looked] at written
            cases written
          · split at written
            · cases written
            · cases written
              rfl

/-- What is written to a path is read from it. -/
theorem read_write (written : t.write p contents = .ok t') : t'.read p = .ok contents := by
  obtain ⟨dir, name, names, free, rfl⟩ := put_of_write written
  have stays := locate_put free (.file contents) names.located
  have here := @entry?_put_self t (dir ++ [name]) (by simp) (.file contents)
  exact read_eq_ok.2 ⟨dir, name, ⟨stays, names.noSlash, names.short⟩, here⟩

/-- What is saved at a path, the directories on its way made, is read from it. -/
theorem read_save (saved : t.save p contents = .ok t') : t'.read p = .ok contents := by
  unfold save at saved
  cases made : t.makeParents p with
  | error _ => simp [made, Bind.bind, Except.bind] at saved
  | ok between =>
      rw [made] at saved
      exact read_write saved

end Tree
end Files

namespace Handle

open Files (Path Tree)

variable {t t' : Tree} {p : Path} {h : Handle}

/-! ## Handles in files -/

/-- What a handle is saved as is the text of its record. -/
theorem written_of_save (saved : h.save t p = .ok t') : t.save p (.text h.toText) = .ok t' := by
  unfold save at saved
  cases written : t.save p (.text h.toText) with
  | error _ => simp [written, Except.mapError] at saved
  | ok after =>
      rw [written] at saved
      cases saved
      rfl

theorem load_of_read {contents : Blob} (read : t.read p = .ok contents) :
    load t p = ofBlob contents := by
  unfold load
  rw [read]
  rfl

/-- A file in which a handle was saved is read as the text of its record. -/
theorem load_save (saved : h.save t p = .ok t') : load t' p = ofBlob (.text h.toText) :=
  load_of_read (Tree.read_save (written_of_save saved))

/-- The text of a handle that keeps no message is read back. -/
theorem ofBlob_of_keepsNone (fits : h.Fits) (keeps : h.kept? = none) :
    ofBlob (.text h.toText) = .ok h.restored := by
  have flat : h.keptNesting = 0 := by
    unfold keptNesting
    rw [keeps]
    rfl
  have legible : ∀ v, h.kept? = some v → v.Legible := by
    intro v here
    rw [keeps] at here
    cases here
  rw [ofBlob_toText fits legible, flat]
  rfl

/-- A handle that keeps no message is loaded from the file in which it was saved. -/
theorem load_of_keepsNone (fits : h.Fits) (keeps : h.kept? = none) (saved : h.save t p = .ok t') :
    load t' p = .ok h.restored := by
  rw [load_save saved]
  exact ofBlob_of_keepsNone fits keeps

/-- What is loaded from the file in which a handle was saved is that handle as its record gives it
back. -/
theorem eq_restored_of_load {g : Handle} (fits : h.Fits) (kept : ∀ v, h.kept? = some v → v.Legible)
    (saved : h.save t p = .ok t') (loaded : load t' p = .ok g) : g = h.restored := by
  rw [load_save saved, ofBlob_toText fits kept] at loaded
  by_cases shallow : h.keptNesting ≤ 124
  · rw [if_pos shallow] at loaded
    exact (Except.ok.inj loaded).symm
  · rw [if_neg shallow] at loaded
    cases loaded

end Handle
end QuantumJobs

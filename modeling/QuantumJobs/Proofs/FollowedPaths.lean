import QuantumJobs.Proofs.TreeChanges

/-!
# FollowedPaths — where paths lead

A path leads from its start to one location, whether or not anything is there: `..` leads up and
every other segment leads down.  Whoever can follow the path through directories comes to that
location.  So a file that is written at a path stands where the path leads, and no other file has
changed.

A path below a directory leads there only if it neither starts at the root nor leads up.
-/

namespace QuantumJobs
namespace Files

/-- Where segments lead from a location. -/
def Location.follow : Location → List String → Location
  | l, [] => l
  | l, s :: rest => if s = ".." then follow l.dropLast rest else follow (l ++ [s]) rest

theorem Location.follow_cons (l : Location) (s : String) (rest : List String) :
    l.follow (s :: rest) = if s = ".." then follow l.dropLast rest else follow (l ++ [s]) rest := rfl

theorem Location.follow_append (rest : List String) :
    ∀ (segments : List String) (l : Location),
      l.follow (segments ++ rest) = (l.follow segments).follow rest := by
  intro segments
  induction segments with
  | nil =>
      intro l
      rfl
  | cons s segments ih =>
      intro l
      rw [List.cons_append, follow_cons, follow_cons]
      split
      · exact ih _
      · exact ih _

namespace Path

/-- Where a path leads if relative paths start at the given location. -/
def place (current : Location) (p : Path) : Location :=
  Location.follow (if isAbsolute p then [] else current) (segments p)

variable {dir p : Path}

/-! ## Segments -/

/-- A slash parts the segments before it from those after it. -/
theorem segments_append_slash (before after : String) :
    segments (before ++ "/" ++ after) = segments before ++ segments after := by
  have chars : (before ++ "/" ++ after).toList = before.toList ++ '/' :: after.toList := by
    simp [String.toList_append]
  have parted : (before.toList ++ '/' :: after.toList).splitOn '/'
      = before.toList.splitOn '/' ++ after.toList.splitOn '/' :=
    List.splitOnP_append_cons _ _ (beq_self_eq_true '/')
  unfold segments pieces
  rw [chars, parted, List.map_append, List.filter_append]

theorem pieces_of_noSlash (noSlash : '/' ∉ p.toList) : pieces p = [p] := by
  rw [pieces, List.splitOn_eq_singleton noSlash, List.map_singleton, String.ofList_toList]

/-- A text without slashes is its only segment. -/
theorem segments_of_noSlash (noSlash : '/' ∉ p.toList) (some : p ≠ "") (named : p ≠ ".") :
    segments p = [p] := by
  rw [segments, pieces_of_noSlash noSlash]
  simp [some, named]

theorem not_isAbsolute_of_noSlash (noSlash : '/' ∉ p.toList) : isAbsolute p = false := by
  unfold isAbsolute
  cases starts : p.toList with
  | nil => rfl
  | cons c rest =>
      rw [starts, List.mem_cons, not_or] at noSlash
      simp [Ne.symm noSlash.1]

/-- The segments of a path below a directory come after those of the directory. -/
theorem segments_join (named : dir ≠ "") (relative : isAbsolute p = false) :
    segments (join dir p) = segments dir ++ segments p := by
  unfold join
  rw [relative, if_neg (by simpa using named)]
  by_cases slash : dir.toList.getLast? = some '/'
  · -- Nothing comes after the last slash of the directory, so it parts the two as a new one would.
    obtain ⟨before, ends⟩ := List.getLast?_eq_some_iff.1 slash
    have whole : dir = String.ofList before ++ "/" := by
      apply String.toList_inj.1
      simpa [String.toList_append] using ends
    have same : segments dir = segments (String.ofList before) := by
      calc segments dir
          = segments (String.ofList before ++ "/" ++ "") := by rw [whole, String.append_empty]
        _ = segments (String.ofList before) ++ segments "" := segments_append_slash _ _
        _ = segments (String.ofList before) := by simp [segments, pieces]
    rw [if_pos slash, same]
    calc segments (dir ++ p)
        = segments (String.ofList before ++ "/" ++ p) := by rw [whole]
      _ = segments (String.ofList before) ++ segments p := segments_append_slash _ _
  · rw [if_neg slash]
    exact segments_append_slash dir p

theorem isAbsolute_join (named : dir ≠ "") (relative : isAbsolute p = false) :
    isAbsolute (join dir p) = isAbsolute dir := by
  have head : ∀ rest : String, isAbsolute (dir ++ rest) = isAbsolute dir := by
    intro rest
    unfold isAbsolute
    rw [String.toList_append]
    cases starts : dir.toList with
    | nil => exact absurd (String.toList_eq_nil_iff.1 starts) named
    | cons c chars => rfl
  unfold join
  rw [relative, if_neg (by simpa using named)]
  split
  · exact head p
  · rw [String.append_assoc]
    exact head _

/-- A relative path below a directory leads on from where the directory is. -/
theorem place_join (current : Location) (named : dir ≠ "") (relative : isAbsolute p = false) :
    place current (join dir p) = (place current dir).follow (segments p) := by
  unfold place
  rw [isAbsolute_join named relative, segments_join named relative, Location.follow_append]

/-- An absolute path leads on from the root. -/
theorem place_join_of_isAbsolute (current : Location) (dir : Path) (absolute : isAbsolute p = true) :
    place current (join dir p) = Location.follow [] (segments p) := by
  have same : join dir p = p := by simp [join, absolute]
  rw [same, place, if_pos absolute]

/-- The name at the end of a path is its last segment. -/
theorem segments_of_lastName? {name : String} (last : lastName? p = some name) :
    name ≠ ".." ∧ segments p = (segments p).dropLast ++ [name] := by
  obtain ⟨ends, named⟩ := Option.filter_eq_some_iff.1 last
  obtain ⟨before, pieces⟩ := List.getLast?_eq_some_iff.1 ends
  simp only [Bool.and_eq_true, decide_eq_true_eq] at named
  have all : segments p = before.filter (· ≠ ".") ++ [name] := by
    have both : segments p = ((Path.pieces p).filter (· ≠ "")).filter (· ≠ ".") := by
      rw [List.filter_filter]
      unfold segments
      congr 1
      funext s
      rw [Bool.and_comm]
    rw [both, pieces, List.filter_append]
    simp [named.1]
  refine ⟨named.2, ?_⟩
  rw [all, List.dropLast_concat]

end Path

namespace Tree

variable {t t' t'' : Tree} {p : Path} {contents : Blob} {l : Location}

/-! ## Locations -/

theorem Walks.eq_follow {start target : Location} {segments : List String}
    (walks : Walks t start segments target) : target = start.follow segments := by
  induction walks with
  | arrived l => rfl
  | up _ ih => rw [Location.follow_cons, if_pos rfl, ih]
  | down down _ _ _ ih => rw [Location.follow_cons, if_neg down, ih]

/-- What a path is found to name stands where the path leads. -/
theorem place_of_locate {dir : Location} {name : String}
    (located : t.locate p = .ok (.named dir name)) : dir ++ [name] = Path.place t.current p := by
  cases locate_eq_ok.1 located with
  | named _ last walks =>
      obtain ⟨down, segments⟩ := Path.segments_of_lastName? last
      have here : dir.follow [name] = dir ++ [name] := by
        rw [Location.follow_cons, if_neg down]
        rfl
      calc dir ++ [name]
          = dir.follow [name] := here.symm
        _ = ((startOf t p).follow (Path.segments p).dropLast).follow [name] := by
            rw [← walks.eq_follow]
        _ = (startOf t p).follow ((Path.segments p).dropLast ++ [name]) :=
            (Location.follow_append [name] _ _).symm
        _ = Path.place t.current p := by
            rw [← segments]
            rfl

/-! ## Trees that differ in one file -/

/-- The second tree has the files of the first and no others, but for the one at a location. -/
structure OnlyAt (l : Location) (t t' : Tree) : Prop where
  current : t'.current = t.current
  files : ∀ key c, t'.entries.get? key = some (.file c) →
    t.entries.get? key = some (.file c) ∨ key = l.text

theorem Grown.onlyAt (grown : Grown t t') (l : Location) : OnlyAt l t t' :=
  ⟨grown.current, fun key c here => .inl (grown.files key c here)⟩

theorem OnlyAt.trans (first : OnlyAt l t t') (second : OnlyAt l t' t'') : OnlyAt l t t'' where
  current := second.current.trans first.current
  files key c here := by
    rcases second.files key c here with before | there
    · exact first.files key c before
    · exact .inr there

theorem onlyAt_of_write (written : t.write p contents = .ok t') :
    OnlyAt (Path.place t.current p) t t' := by
  obtain ⟨dir, name, names, _, rfl⟩ := put_of_write written
  refine ⟨rfl, ?_⟩
  intro key c here
  have found : (t.entries.insert (Location.text (dir ++ [name])) (.file contents)).get? key
      = some (.file c) := here
  rw [Dict.get?_insert] at found
  split at found
  · rename_i same
    rw [← place_of_locate names.located]
    exact .inr same.symm
  · exact .inl found

theorem onlyAt_of_save (saved : t.save p contents = .ok t') :
    OnlyAt (Path.place t.current p) t t' := by
  obtain ⟨between, made, written⟩ := of_bind_ok saved
  have grown := grown_makeParents made
  have wrote := onlyAt_of_write written
  rw [grown.current] at wrote
  exact (grown.onlyAt _).trans wrote

theorem OnlyAt.of_mem_changes (only : OnlyAt l t t') {e : String × Blob}
    (changed : e ∈ changes t t') : e.1 = l.text := by
  obtain ⟨here, other⟩ := mem_changes.1 changed
  rcases only.files _ _ here with before | there
  · exact absurd before other
  · exact there

/-- Directories are made, and a file is saved at a path, any number of times. -/
inductive Filed (p : Path) (t : Tree) : Tree → Prop where
  | start : Filed p t t
  | made {t' t'' : Tree} : Filed p t t' → Grown t' t'' → Filed p t t''
  | saved {t' t'' : Tree} {contents : Blob} : Filed p t t' → t'.save p contents = .ok t'' →
      Filed p t t''

/-- However often a file is saved at a path, no other file has changed. -/
theorem Filed.onlyAt (filed : Filed p t t') : OnlyAt (Path.place t.current p) t t' := by
  induction filed with
  | start => exact (Grown.refl t).onlyAt _
  | made _ grown ih => exact ih.trans (grown.onlyAt _)
  | saved _ saved ih =>
      have saved := onlyAt_of_save saved
      rw [ih.current] at saved
      exact ih.trans saved

/-! ## What exists -/

/-- What exists in the first tree exists in the second, directories as directories and files as
files, whatever they hold. -/
structure Keeps (t t' : Tree) : Prop extends Spans t t' where
  file : ∀ l c, t.entry? l = some (.file c) → ∃ c', t'.entry? l = some (.file c')

theorem Keeps.refl (t : Tree) : Keeps t t := ⟨⟨rfl, fun _ here => here⟩, fun _ c here => ⟨c, here⟩⟩

theorem Keeps.trans (first : Keeps t t') (second : Keeps t' t'') : Keeps t t'' where
  current := second.current.trans first.current
  directory l here := second.directory l (first.directory l here)
  file l c here := by
    obtain ⟨c', between⟩ := first.file l c here
    exact second.file l c' between

theorem Grown.keeps (grown : Grown t t') : Keeps t t' :=
  ⟨grown.spans, fun _ c here => ⟨c, grown.entry? here⟩⟩

theorem keeps_of_write (written : t.write p contents = .ok t') : Keeps t t' := by
  refine ⟨spans_of_write written, ?_⟩
  intro l c here
  obtain ⟨dir, name, _, _, rfl⟩ := put_of_write written
  by_cases root : l.isEmpty = true
  · simp [Tree.entry?, root] at here
  · simp only [Tree.entry?, root, if_false, Bool.false_eq_true] at here ⊢
    show ∃ c', (t.entries.insert (Location.text (dir ++ [name])) (.file contents)).get? l.text
      = some (.file c')
    rw [Dict.get?_insert]
    split
    · exact ⟨contents, rfl⟩
    · exact ⟨c, here⟩

theorem keeps_of_save (saved : t.save p contents = .ok t') : Keeps t t' := by
  obtain ⟨between, made, written⟩ := of_bind_ok saved
  exact (grown_makeParents made).keeps.trans (keeps_of_write written)

theorem Filed.keeps (filed : Filed p t t') : Keeps t t' := by
  induction filed with
  | start => exact .refl t
  | made _ grown ih => exact ih.trans grown.keeps
  | saved _ saved ih => exact ih.trans (keeps_of_save saved)

/-- Something exists at a path if there is a directory or if a file can be read. -/
theorem doesExist_iff : t.doesExist p = true ↔
    t.isDirectory p = true ∨ ∃ c, t.read p = .ok c := by
  unfold doesExist isDirectory read
  cases found : t.find p with
  | error fault => simp [Except.isOk, Except.toBool, Bind.bind, Except.bind]
  | ok e => cases e <;> simp [Except.isOk, Except.toBool, Bind.bind, Except.bind]

theorem Keeps.doesExist (keeps : Keeps t t') (there : t.doesExist p = true) :
    t'.doesExist p = true := by
  rw [doesExist_iff] at there ⊢
  rcases there with directory | ⟨c, read⟩
  · exact .inl (keeps.toSpans.isDirectory directory)
  · obtain ⟨dir, name, names, here⟩ := read_eq_ok.1 read
    obtain ⟨c', here'⟩ := keeps.file _ c here
    have located := locate_mono keeps.directory keeps.current names.located
    exact .inr ⟨c', read_eq_ok.2 ⟨dir, name, ⟨located, names.noSlash, names.short⟩, here'⟩⟩

end Tree
end Files
end QuantumJobs

import Mathlib
import PeerBook.Store.Blob

/-!
# Failed saves leave a file system's tree as it was

A file system holds only trees in which every entry sits in directories (`FileTree.Closed`). In
such a tree, making a path's directories with their ancestors fails only at a file the tree
already has on the path, and every directory before that file exists already, so nothing is made
before the failure (`makeDirectories_error_makes_nothing`). A file blob's save that makes the
directory of its file and then fails to write or rename made nothing either
(`save_error_keeps_tree`). An operation that fails and drops the tree it was building therefore
loses no directory that a file system would have kept.
-/

namespace PeerBook.Store

namespace FileTree

/-- A tree a file system can hold: the ancestors of every path that holds an entry are
directories. -/
def Closed (tree : FileTree) : Prop :=
  ∀ path entry, tree.find? path = some entry →
    ∀ ancestor ∈ ancestors path, tree.find? ancestor = some .directory

/-- The directories that making a path's directories visits, outermost first. -/
def steps (path : Path) : List Path :=
  ancestors path ++ (if path.isEmpty then [] else [path])

/-- One directory made, or found already there. -/
def mkdirStep (tree : FileTree) (directory : Path) : Except FileError FileTree :=
  match tree.find? directory with
  | some .directory => .ok tree
  | some (.file _) => .error (.onPath "mkdir" directory .notDirectory)
  | none => .ok (tree.put directory .directory)

theorem makeDirectories_eq (tree : FileTree) (path : Path) :
    tree.makeDirectories path = (steps path).foldlM mkdirStep tree := rfl

/-! ## Paths -/

theorem mem_ancestors {path ancestor : Path} :
    ancestor ∈ ancestors path ↔ ancestor ≠ [] ∧ ancestor.length < path.length ∧ ancestor <+: path := by
  simp only [ancestors, List.mem_map, List.mem_range]
  constructor
  · rintro ⟨count, below, rfl⟩
    have nonEmpty : path ≠ [] := by
      rintro rfl
      simp at below
    refine ⟨?_, ?_, List.take_prefix _ _⟩
    · simp [List.take_eq_nil_iff, nonEmpty]
    · simp only [List.length_take]
      omega
  · rintro ⟨nonEmpty, shorter, isPrefix⟩
    have positive : 0 < ancestor.length := List.length_pos_iff.mpr nonEmpty
    refine ⟨ancestor.length - 1, by omega, ?_⟩
    rw [Nat.sub_add_cancel positive]
    exact (List.prefix_iff_eq_take.mp isPrefix).symm

theorem mem_steps {path directory : Path} :
    directory ∈ steps path ↔ directory ≠ [] ∧ directory <+: path := by
  simp only [steps, List.mem_append, mem_ancestors]
  constructor
  · rintro (⟨nonEmpty, -, isPrefix⟩ | whole)
    · exact ⟨nonEmpty, isPrefix⟩
    · split at whole
      · cases whole
      · next notEmpty =>
          obtain rfl := List.mem_singleton.mp whole
          exact ⟨by simpa using notEmpty, List.prefix_refl _⟩
  · rintro ⟨nonEmpty, isPrefix⟩
    by_cases shorter : directory.length < path.length
    · exact .inl ⟨nonEmpty, shorter, isPrefix⟩
    · -- A prefix as long as the path is the path.
      obtain rfl := isPrefix.eq_of_length (le_antisymm isPrefix.length_le (by omega))
      right
      simp [nonEmpty]

/-- The ancestors of a path one name below a directory are the directories making it visits. -/
theorem mem_ancestors_append_singleton {directory ancestor : Path} {name : String} :
    ancestor ∈ ancestors (directory ++ [name]) ↔ ancestor ∈ steps directory := by
  rw [mem_ancestors, mem_steps, List.prefix_concat_iff]
  constructor
  · rintro ⟨nonEmpty, shorter, whole | isPrefix⟩
    · rw [whole] at shorter
      exact absurd shorter (Nat.lt_irrefl _)
    · exact ⟨nonEmpty, isPrefix⟩
  · rintro ⟨nonEmpty, isPrefix⟩
    have := isPrefix.length_le
    exact ⟨nonEmpty, by simp; omega, .inr isPrefix⟩

theorem append_singleton_not_mem_steps (directory : Path) (name : String) :
    directory ++ [name] ∉ steps directory := by
  intro member
  have := (mem_steps.mp member).2.length_le
  simp at this

/-! ## Entries -/

theorem lookup_filter_of_ne {entries : List (Path × Entry)} {path other : Path}
    (different : other ≠ path) :
    (entries.filter (·.1 != path)).lookup other = entries.lookup other := by
  induction entries with
  | nil => rfl
  | cons head rest induction =>
      obtain ⟨key, entry⟩ := head
      by_cases same : key = path
      · subst same
        simp [List.lookup, beq_false_of_ne different, induction]
      · simp [same, List.lookup, induction]

theorem lookup_filter_self (entries : List (Path × Entry)) (path : Path) :
    (entries.filter (·.1 != path)).lookup path = none := by
  induction entries with
  | nil => rfl
  | cons head rest induction =>
      obtain ⟨key, entry⟩ := head
      by_cases same : key = path
      · subst same
        simp [induction]
      · simp [same, List.lookup, beq_false_of_ne (Ne.symm same), induction]

theorem find?_put_of_ne {tree : FileTree} {path other : Path} {entry : Entry}
    (different : other ≠ path) : (tree.put path entry).find? other = tree.find? other := by
  unfold find? put
  split
  · rfl
  · rw [List.lookup_append, lookup_filter_of_ne different]
    simp [List.lookup, beq_false_of_ne different]

theorem find?_put_self {tree : FileTree} {path : Path} {entry : Entry} (nonRoot : path ≠ []) :
    (tree.put path entry).find? path = some entry := by
  unfold find? put
  rw [if_neg (by simpa using nonRoot), List.lookup_append, lookup_filter_self]
  simp [List.lookup]

theorem find?_nil (tree : FileTree) : tree.find? [] = some .directory := rfl

/-! ## Making directories -/

theorem mkdirStep_of_directory {tree : FileTree} {directory : Path}
    (existing : tree.find? directory = some .directory) : mkdirStep tree directory = .ok tree := by
  simp [mkdirStep, existing]

/-- A step that succeeds leaves a directory at its path and every other path as it was. -/
theorem find?_mkdirStep {tree next : FileTree} {directory : Path}
    (stepped : mkdirStep tree directory = .ok next) :
    next.find? directory = some .directory ∧
      ∀ path ≠ directory, next.find? path = tree.find? path := by
  unfold mkdirStep at stepped
  split at stepped
  · next existing =>
      cases stepped
      exact ⟨existing, fun _ _ => rfl⟩
  · cases stepped
  · next missing =>
      cases stepped
      -- The root is always a directory, so a missing path is not the root.
      have nonRoot : directory ≠ [] := by
        rintro rfl
        rw [find?_nil] at missing
        cases missing
      exact ⟨find?_put_self nonRoot, fun _ different => find?_put_of_ne different⟩

/-- A run of steps that fails stops at a file the tree had before the run. -/
theorem foldlM_mkdirStep_error {tree : FileTree} :
    ∀ (directories : List Path) (current : FileTree) {error : FileError},
      (∀ path bytes, current.find? path = some (.file bytes) →
        tree.find? path = some (.file bytes)) →
      directories.foldlM mkdirStep current = .error error →
      ∃ stop ∈ directories, ∃ bytes, error = .onPath "mkdir" stop .notDirectory ∧
        tree.find? stop = some (.file bytes)
  | [], _, _, _, failed => by cases failed
  | directory :: rest, current, error, filesKept, failed => by
      rw [List.foldlM_cons] at failed
      cases stepping : mkdirStep current directory with
      | error fault =>
          simp only [stepping, bind, Except.bind, Except.error.injEq] at failed
          subst failed
          unfold mkdirStep at stepping
          split at stepping
          · cases stepping
          · next bytes isFile =>
              cases stepping
              exact ⟨directory, List.mem_cons_self, bytes, rfl, filesKept _ _ isFile⟩
          · cases stepping
      | ok next =>
          simp only [stepping, bind, Except.bind] at failed
          -- A step only adds a directory, so the files of `next` are those of `current`.
          have nextFiles : ∀ path bytes, next.find? path = some (.file bytes) →
              tree.find? path = some (.file bytes) := by
            intro path bytes isFile
            obtain ⟨made, others⟩ := find?_mkdirStep stepping
            by_cases same : path = directory
            · subst same
              rw [made] at isFile
              cases isFile
            · exact filesKept path bytes (by rwa [← others path same])
          obtain ⟨stop, member, bytes, named, isFile⟩ :=
            foldlM_mkdirStep_error rest next nextFiles failed
          exact ⟨stop, List.mem_cons_of_mem _ member, bytes, named, isFile⟩

/-- A run of steps that succeeds leaves a directory at each path it visits and every other path
as it was. -/
theorem foldlM_mkdirStep_ok :
    ∀ (directories : List Path) (current : FileTree) {result : FileTree},
      directories.foldlM mkdirStep current = .ok result →
      (∀ directory ∈ directories, result.find? directory = some .directory) ∧
        ∀ path ∉ directories, result.find? path = current.find? path
  | [], _, _, done => by
      cases done
      exact ⟨fun _ member => (by cases member), fun _ _ => rfl⟩
  | directory :: rest, current, result, done => by
      rw [List.foldlM_cons] at done
      cases stepping : mkdirStep current directory with
      | error fault => simp [stepping, bind, Except.bind] at done
      | ok next =>
          simp only [stepping, bind, Except.bind] at done
          obtain ⟨made, others⟩ := find?_mkdirStep stepping
          obtain ⟨restMade, restOthers⟩ := foldlM_mkdirStep_ok rest next done
          refine ⟨fun visited member => ?_, fun path absent => ?_⟩
          · rcases List.mem_cons.mp member with rfl | later
            · by_cases again : visited ∈ rest
              · exact restMade visited again
              · rw [restOthers visited again, made]
            · exact restMade visited later
          · rw [List.mem_cons, not_or] at absent
            rw [restOthers path absent.2, others path absent.1]

theorem foldlM_mkdirStep_of_directories :
    ∀ (directories : List Path) (current : FileTree),
      (∀ directory ∈ directories, current.find? directory = some .directory) →
      directories.foldlM mkdirStep current = .ok current
  | [], _, _ => rfl
  | directory :: rest, current, existing => by
      rw [List.foldlM_cons, mkdirStep_of_directory (existing directory List.mem_cons_self)]
      exact foldlM_mkdirStep_of_directories rest current
        fun other member => existing other (List.mem_cons_of_mem _ member)

/-- Making a path's directories in a tree a file system can hold fails only at a file the tree
has on the path, all of whose ancestors are directories already: nothing is made before the
failure. -/
theorem makeDirectories_error_makes_nothing {tree : FileTree} (closed : tree.Closed)
    {path : Path} {error : FileError} (failed : tree.makeDirectories path = .error error) :
    ∃ stop bytes, stop <+: path ∧ tree.find? stop = some (.file bytes) ∧
      error = .onPath "mkdir" stop .notDirectory ∧
      ∀ ancestor ∈ ancestors stop, tree.find? ancestor = some .directory := by
  rw [makeDirectories_eq] at failed
  obtain ⟨stop, member, bytes, named, isFile⟩ :=
    foldlM_mkdirStep_error (steps path) tree (fun _ _ isFile => isFile) failed
  exact ⟨stop, bytes, (mem_steps.mp member).2, isFile, named, closed stop _ isFile⟩

/-- When a tree a file system can hold has an entry one name below a directory, making that
directory makes nothing. -/
theorem makeDirectories_of_entry_below {tree made : FileTree} (closed : tree.Closed)
    {directory : Path} (making : tree.makeDirectories directory = .ok made) {name : String}
    {entry : Entry} (below : made.find? (directory ++ [name]) = some entry) : made = tree := by
  rw [makeDirectories_eq] at making
  have original : tree.find? (directory ++ [name]) = some entry := by
    rw [← (foldlM_mkdirStep_ok _ _ making).2 _ (append_singleton_not_mem_steps directory name),
      below]
  have existing : ∀ step ∈ steps directory, tree.find? step = some .directory :=
    fun step member => closed _ _ original step (mem_ancestors_append_singleton.mpr member)
  rw [foldlM_mkdirStep_of_directories _ _ existing] at making
  exact (Except.ok.inj making).symm

/-! ## Writing and renaming -/

theorem reach_of_directories {tree : FileTree} {path : Path}
    (directories : ∀ ancestor ∈ ancestors path, tree.find? ancestor = some .directory) :
    tree.reach path = .ok (tree.find? path) := by
  unfold reach
  generalize ancestors path = list at directories
  induction list with
  | nil => rfl
  | cons ancestor rest induction =>
      simp only [List.forIn_cons, directories ancestor List.mem_cons_self]
      exact induction fun other member => directories other (List.mem_cons_of_mem _ member)

/-- One name below a directory whose steps are all directories, a path is reached. -/
theorem reach_append_singleton {tree : FileTree} {directory : Path}
    (made : ∀ step ∈ steps directory, tree.find? step = some .directory) (name : String) :
    tree.reach (directory ++ [name]) = .ok (tree.find? (directory ++ [name])) :=
  reach_of_directories fun ancestor member => made ancestor (mem_ancestors_append_singleton.mp member)

/-- An entry put one name below a directory leaves the steps of that directory as they were. -/
theorem find?_put_below {tree : FileTree} {directory step : Path} {name : String} {entry : Entry}
    (member : step ∈ steps directory) :
    (tree.put (directory ++ [name]) entry).find? step = tree.find? step :=
  find?_put_of_ne fun same => append_singleton_not_mem_steps directory name (same ▸ member)

theorem write_of_reach {tree : FileTree} {path : Path} {bytes : List UInt8}
    (reached : tree.reach path = .ok (tree.find? path))
    (notDirectory : tree.find? path ≠ some .directory) :
    tree.write path bytes = .ok (tree.put path (.file bytes)) := by
  unfold write
  rw [reached]
  split
  · next errno failed => cases failed
  · next found => exact absurd (Except.ok.inj found) notDirectory
  · rfl

theorem rename_of_reach {tree : FileTree} {source target : Path} {entry : Entry}
    (reached : tree.reach target = .ok (tree.find? target))
    (notDirectory : tree.find? target ≠ some .directory)
    (present : tree.find? source = some entry) :
    tree.rename source target = .ok ((tree.remove source).put target entry) := by
  unfold rename
  rw [reached]
  split
  · next errno failed => cases failed
  · next found => exact absurd (Except.ok.inj found) notDirectory
  · rw [present]

end FileTree

namespace FileBlob

theorem temporary_eq (blob : FileBlob) (tree : FileTree) :
    ∃ name, ({ blob with tree := tree } : FileBlob).temporary = blob.directory ++ [name] :=
  ⟨_, rfl⟩

/-- A save that makes its file's directory and then fails to write or rename made nothing: the
tree it drops is the tree it started from, as in a file system. -/
theorem save_error_keeps_tree {blob : FileBlob} (closed : blob.tree.Closed) {made : FileTree}
    (making : blob.tree.makeDirectories blob.directory = .ok made) {bytes : List UInt8}
    {message : String} (failed : blob.save bytes = .error message) : made = blob.tree := by
  have madeSteps := (FileTree.foldlM_mkdirStep_ok _ _
    (by rwa [FileTree.makeDirectories_eq] at making)).1
  obtain ⟨name, isTemporary⟩ := temporary_eq blob made
  simp only [save, making, bind, Except.bind, pure, Except.pure] at failed
  generalize ({ blob with tree := made } : FileBlob).temporary = temporary at isTemporary failed
  subst isTemporary
  -- A directory where the temporary file goes sits below the save's directory.
  by_cases temporaryDirectory : made.find? (blob.directory ++ [name]) = some .directory
  · exact FileTree.makeDirectories_of_entry_below closed making temporaryDirectory
  rw [FileTree.write_of_reach (FileTree.reach_append_singleton madeSteps name)
    temporaryDirectory] at failed
  simp only at failed
  -- A file at the root path cannot be: the save's directory is then the root, and making it
  -- makes nothing.
  by_cases root : blob.path = []
  · have atRoot : blob.directory = [] := by simp [directory, root]
    rw [atRoot] at making
    exact (Except.ok.inj making).symm
  have whole : blob.path = blob.directory ++ [blob.path.getLast root] :=
    (List.dropLast_append_getLast root).symm
  set written := made.put (blob.directory ++ [name]) (.file bytes)
  have writtenSteps : ∀ step ∈ FileTree.steps blob.directory,
      written.find? step = some .directory := fun step member => by
    rw [FileTree.find?_put_below member, madeSteps step member]
  have targetReached : written.reach blob.path = .ok (written.find? blob.path) := by
    rw [whole]
    exact FileTree.reach_append_singleton writtenSteps _
  have source : written.find? (blob.directory ++ [name]) = some (.file bytes) :=
    FileTree.find?_put_self (by simp)
  by_cases targetDirectory : written.find? blob.path = some .directory
  · -- The target is a directory below the save's directory, other than the temporary file.
    have different : blob.path ≠ blob.directory ++ [name] := fun same => by
      rw [same, source] at targetDirectory
      cases targetDirectory
    rw [FileTree.find?_put_of_ne different, whole] at targetDirectory
    exact FileTree.makeDirectories_of_entry_below closed making targetDirectory
  · rw [FileTree.rename_of_reach targetReached targetDirectory source] at failed
    cases failed

end FileBlob

end PeerBook.Store

import LessonShell.Proofs.Vfs.Retention

/-! Making sure of a directory and writing a file, exactly: when they succeed, and what they leave.
Both put one node in its place and end the list of its directory with its name if nothing stood
there before; done again, they change nothing. -/
namespace LessonShell.Vfs

/-- The names of those among the paths where nothing exists. -/
def missing (vfs : Vfs) (paths : List Path) : List String :=
  (paths.filter (· ∉ vfs.nodes)).map Path.name

/-- A node stands at `path`, listed at the end of its directory if it is new there. -/
structure Put (before : Vfs) (path : Path) (node : Node) (after : Vfs) : Prop where
  here : after.nodes[path]? = some node
  above : ∃ names, before.nodes[path.parent]? = some (.dir names) ∧
    after.nodes[path.parent]? = some (.dir (names ++ before.missing [path]))
  elsewhere : ∀ other, other ≠ path → other ≠ path.parent → after.nodes[other]? = before.nodes[other]?

theorem isDirectory_congr {vfs other : Vfs} {path : Path} (same : other.nodes[path]? = vfs.nodes[path]?) :
    other.IsDirectory path ↔ vfs.IsDirectory path := by
  rw [IsDirectory, IsDirectory, same]

section missing
variable {vfs other : Vfs} {path : Path}

theorem missing_of_mem (member : path ∈ vfs.nodes) : vfs.missing [path] = [] := by
  simp [missing, member]

theorem missing_of_not_mem (absent : path ∉ vfs.nodes) : vfs.missing [path] = [path.name] := by
  simp [missing, absent]

theorem missing_cons (path : Path) (rest : List Path) :
    vfs.missing (path :: rest) = vfs.missing [path] ++ vfs.missing rest := by
  rw [missing, missing, missing, ← List.map_append, ← List.filter_append, List.singleton_append]

theorem missing_congr {paths : List Path} (same : ∀ path ∈ paths, path ∈ other.nodes ↔ path ∈ vfs.nodes) :
    other.missing paths = vfs.missing paths := by
  unfold missing
  congr 1
  refine List.filter_congr fun path member => ?_
  simp only [same path member]

end missing

namespace Put
variable {before after : Vfs} {path : Path} {node : Node}

theorem mem_iff (put : Put before path node after) {other : Path} :
    other ∈ after.nodes ↔ other = path ∨ other ∈ before.nodes := by
  by_cases here : other = path
  · simp only [here, true_or, iff_true]
    exact mem_nodes_iff.mpr ⟨node, put.here⟩
  · by_cases parent : other = path.parent
    · obtain ⟨names, above, still⟩ := put.above
      rw [← parent] at above still
      exact iff_of_true (mem_nodes_iff.mpr ⟨_, still⟩) (.inr (mem_nodes_iff.mpr ⟨_, above⟩))
    · simp only [mem_nodes_iff, put.elsewhere other here parent, here, false_or]

theorem missing_eq (put : Put before path node after) {paths : List Path} (others : path ∉ paths) :
    after.missing paths = before.missing paths := by
  refine missing_congr fun other member => ?_
  rw [put.mem_iff]
  constructor
  · rintro (rfl | old)
    · exact absurd member others
    · exact old
  · exact .inr

end Put

section growth
variable {before after : Vfs} {path : Path} {node : Node}

theorem Growth.put (growth : Growth before path after) (consistent : before.Consistent)
    (here : after.nodes[path]? = some node) : Put before path node after := by
  cases growth with
  | same =>
    have member : path ∈ before.nodes := mem_nodes_iff.mpr ⟨node, here⟩
    refine ⟨here, ?_, fun _ _ _ => rfl⟩
    rw [missing_of_mem member]
    simp only [List.append_nil, and_self]
    by_cases top : path = Path.root
    · rw [top]
      exact consistent.root
    · exact consistent.parent_isDirectory member top
  | overwritten change =>
    obtain ⟨old, file⟩ := change.file
    have member : path ∈ before.nodes := mem_nodes_iff.mpr ⟨_, file⟩
    have nonroot : path ≠ Path.root := by
      rintro rfl
      obtain ⟨names, listed⟩ := consistent.root
      rw [listed] at file
      cases file
    obtain ⟨names, above⟩ := consistent.parent_isDirectory member nonroot
    refine ⟨here, ⟨names, above, ?_⟩, ?_⟩
    · rw [missing_of_mem member, List.append_nil]
      exact change.listing_iff.mpr above
    · intro other differs _
      rw [change.lookup, if_neg differs]
  | added change =>
    obtain ⟨names, above, lookup⟩ := change.lookup
    refine ⟨here, ⟨names, above, ?_⟩, ?_⟩
    · rw [lookup, if_neg (Path.parent_ne (change.nonroot consistent)), if_pos rfl,
        missing_of_not_mem change.absent]
    · intro other differs beside
      rw [lookup, if_neg differs, if_neg beside]

end growth

section operations
variable {vfs after : Vfs} {text content : String} {made : Bool}

theorem exists_insertNew_iff {path : Path} {node : Node} :
    (∃ after, vfs.insertNew path node = (.ok (), after)) ↔ vfs.IsDirectory path.parent := by
  refine ⟨?_, exists_insertNew⟩
  rintro ⟨after, done⟩
  unfold insertNew at done
  split at done
  · next listed edited =>
    obtain ⟨names, above, _⟩ := editSiblings_eq_ok_iff.mp edited
    exact ⟨names, above⟩
  · cases done

theorem exists_create_iff {path : Path} {node : Node} :
    (∃ made after, vfs.create path node = (.ok made, after)) ↔ vfs.IsDirectory path.parent := by
  simp only [create_eq_ok_iff, exists_and_left, exists_eq_left, exists_insertNew_iff]

theorem exists_ensureDir_iff : (∃ made after, vfs.ensureDir text = (.ok made, after)) ↔
    vfs.IsDirectory (Path.ofText text) ∨
      Path.ofText text ∉ vfs.nodes ∧ vfs.IsDirectory (Path.ofText text).parent := by
  simp only [ensureDir]
  split
  · next names found => exact iff_of_true ⟨_, _, rfl⟩ (.inl ⟨names, found⟩)
  · next old found =>
    constructor
    · rintro ⟨_, _, done⟩
      cases done
    · rintro (⟨names, listed⟩ | ⟨absent, _⟩)
      · rw [found] at listed
        cases listed
      · exact absurd (mem_nodes_iff.mpr ⟨_, found⟩) absent
  · next absent =>
    have free := not_mem_nodes_iff.mpr absent
    rw [exists_create_iff]
    constructor
    · exact fun above => .inr ⟨free, above⟩
    · rintro (here | ⟨_, above⟩)
      · exact absurd here.mem free
      · exact above

theorem exists_write_iff (consistent : vfs.Consistent) :
    (∃ made after, vfs.write text content = (.ok made, after)) ↔
      ¬ vfs.IsDirectory (Path.ofText text) ∧ vfs.IsDirectory (Path.ofText text).parent := by
  simp only [write]
  split
  · next old found =>
    have leaf : ¬ vfs.IsDirectory (Path.ofText text) := by
      rintro ⟨names, listed⟩
      rw [found] at listed
      cases listed
    have nonroot : Path.ofText text ≠ Path.root := fun top => leaf (top ▸ consistent.root)
    exact iff_of_true ⟨_, _, rfl⟩ ⟨leaf, consistent.parent_isDirectory (mem_nodes_iff.mpr ⟨_, found⟩) nonroot⟩
  · next names found =>
    constructor
    · rintro ⟨_, _, done⟩
      cases done
    · exact fun both => absurd ⟨names, found⟩ both.1
  · next absent =>
    have leaf : ¬ vfs.IsDirectory (Path.ofText text) :=
      fun directory => not_mem_nodes_iff.mpr absent directory.mem
    rw [exists_create_iff]
    exact ⟨fun above => ⟨leaf, above⟩, fun both => both.2⟩

theorem isDirectory_of_write_error (consistent : vfs.Consistent) {fault : Fault}
    (above : vfs.IsDirectory (Path.ofText text).parent)
    (refused : vfs.write text content = (.error fault, after)) : vfs.IsDirectory (Path.ofText text) := by
  by_contra free
  have possible : ∃ made after, vfs.write text content = (.ok made, after) :=
    (exists_write_iff consistent).mpr ⟨free, above⟩
  obtain ⟨made, after, written⟩ := possible
  cases refused.symm.trans written

theorem ensureDir_of_isDirectory (directory : vfs.IsDirectory (Path.ofText text)) :
    vfs.ensureDir text = (.ok false, vfs) := by
  obtain ⟨names, found⟩ := directory
  simp only [ensureDir, found]

theorem ensureDir_isDirectory (consistent : vfs.Consistent) (done : vfs.ensureDir text = (.ok made, after)) :
    after.IsDirectory (Path.ofText text) := by
  rcases ensureDir_cases consistent done with ⟨names, found, rfl⟩ | change
  · exact ⟨names, found⟩
  · exact change.isDirectory

/-- A file that holds the content already is not changed by writing it. -/
theorem write_of_file (found : vfs.nodes[Path.ofText text]? = some (.file content)) :
    vfs.write text content = (.ok false, vfs) := by
  have same : vfs.nodes.insert (Path.ofText text) (.file content) = vfs.nodes := by
    refine Std.ExtTreeMap.ext_getElem? fun path => ?_
    rw [getElem?_insert]
    split
    · next here => rw [← here, found]
    · rfl
  simp only [write, found, same]

theorem ensureDir_put (consistent : vfs.Consistent) (done : vfs.ensureDir text = (.ok made, after)) :
    ∃ names, vfs.nodes[Path.ofText text]?.getD .emptyDir = .dir names ∧
      Put vfs (Path.ofText text) (.dir names) after := by
  rcases ensureDir_cases consistent done with ⟨names, found, rfl⟩ | change
  · rw [found]
    exact ⟨names, rfl, Growth.same.put consistent found⟩
  · obtain ⟨_, _, lookup⟩ := change.lookup
    rw [not_mem_nodes_iff.mp change.absent]
    exact ⟨[], rfl, (Growth.added change).put consistent ((lookup _).trans (if_pos rfl))⟩

theorem read_eq_ok_iff : vfs.read text = .ok content ↔
    vfs.nodes[Path.ofText text]? = some (.file content) := by
  rw [read, get?]
  cases vfs.nodes[Path.ofText text]? with
  | none => simp
  | some node => cases node <;> simp

/-- Writing a file takes nothing away unless the file was there with another content. -/
theorem write_retained_iff (consistent : vfs.Consistent) (done : vfs.write text content = (.ok made, after)) :
    Retained [] vfs after ↔ ∀ old, vfs.read text = .ok old → old = content := by
  constructor
  · intro kept old held
    obtain ⟨now, still, same⟩ := kept.files _ old (read_eq_ok_iff.mp held)
    rw [write_lookup done] at still
    obtain rfl := Node.file.inj (Option.some.inj still)
    exact (same List.not_mem_nil).symm
  · intro same
    have grown := (write_growth consistent done).retained
    refine ⟨fun path old found => ?_, grown.lists⟩
    by_cases here : path = Path.ofText text
    · subst here
      obtain rfl := same old (read_eq_ok_iff.mpr found)
      exact ⟨_, write_lookup done, fun _ => rfl⟩
    · obtain ⟨now, still, kept⟩ := grown.files path old found
      exact ⟨now, still, fun _ => kept (by simpa using here)⟩

theorem write_put (consistent : vfs.Consistent) (done : vfs.write text content = (.ok made, after)) :
    Put vfs (Path.ofText text) (.file content) after :=
  (write_growth consistent done).put consistent (write_lookup done)

end operations
end LessonShell.Vfs

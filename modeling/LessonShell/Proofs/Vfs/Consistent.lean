import LessonShell.Proofs.Path
import LessonShell.Proofs.Tables
import LessonShell.Vfs.Consistency

/-! What it means that the path map and the child lists tell the same story, and that the
audit finds no contradiction exactly when they do. The names of a consistent file system
are stated without the audit, so that each operation can be shown to keep them. -/
namespace LessonShell

@[simp] theorem Path.order_eq_iff {first second : Path} :
    Path.order first second = .eq ↔ first = second :=
  Std.LawfulEqCmp.compare_eq_iff_eq

namespace Vfs

theorem getElem?_insert (nodes : Std.ExtTreeMap Path Node Path.order) (path other : Path) (node : Node) :
    (nodes.insert path node)[other]? = if path = other then some node else nodes[other]? := by
  simp [Std.ExtTreeMap.getElem?_insert]

theorem mem_nodes_iff {vfs : Vfs} {path : Path} :
    path ∈ vfs.nodes ↔ ∃ node, vfs.nodes[path]? = some node := by
  rw [Std.ExtTreeMap.mem_iff_isSome_getElem?, Option.isSome_iff_exists]

theorem not_mem_nodes_iff {vfs : Vfs} {path : Path} : path ∉ vfs.nodes ↔ vfs.nodes[path]? = none := by
  simp [mem_nodes_iff, Option.eq_none_iff_forall_ne_some]

theorem ext_getElem? {vfs other : Vfs} (same : ∀ path : Path, vfs.nodes[path]? = other.nodes[path]?) :
    vfs = other :=
  congrArg Vfs.mk (Std.ExtTreeMap.ext_getElem? fun path => same path)

theorem listing_unique {vfs : Vfs} {path : Path} {first second : List String}
    (one : vfs.nodes[path]? = some (.dir first)) (two : vfs.nodes[path]? = some (.dir second)) :
    first = second :=
  Node.dir.inj (Option.some.inj (one.symm.trans two))

theorem mem_entries_iff {vfs : Vfs} {path : Path} {node : Node} :
    (path, node) ∈ vfs.entries ↔ vfs.nodes[path]? = some node :=
  Std.ExtTreeMap.mem_toList_iff_getElem?_eq_some

def IsDirectory (vfs : Vfs) (path : Path) : Prop := ∃ names, vfs.nodes[path]? = some (.dir names)

theorem IsDirectory.mem {vfs : Vfs} {path : Path} (directory : vfs.IsDirectory path) :
    path ∈ vfs.nodes := by
  obtain ⟨names, found⟩ := directory
  exact mem_nodes_iff.mpr ⟨_, found⟩

theorem isDir_iff {vfs : Vfs} {text : String} :
    vfs.isDir text = true ↔ vfs.IsDirectory (Path.ofText text) := by
  rw [isDir, decide_eq_true_iff, kind?, get?, IsDirectory]
  cases vfs.nodes[Path.ofText text]? with
  | none => simp
  | some node => cases node <;> simp [Node.isDir]

theorem isFile_iff {vfs : Vfs} {text : String} :
    vfs.isFile text = true ↔ ∃ content, vfs.nodes[Path.ofText text]? = some (.file content) := by
  rw [isFile, decide_eq_true_iff, kind?, get?]
  cases vfs.nodes[Path.ofText text]? with
  | none => simp
  | some node => cases node <;> simp [Node.isDir]

theorem has_iff {vfs : Vfs} {text : String} : vfs.has text = true ↔ Path.ofText text ∈ vfs.nodes := by
  rw [has, get?, Std.ExtTreeMap.mem_iff_isSome_getElem?]

theorem children_eq_ok_iff {vfs : Vfs} {text : String} {names : List String} :
    vfs.children text = .ok names ↔ vfs.nodes[Path.ofText text]? = some (.dir names) := by
  rw [children, get?]
  cases vfs.nodes[Path.ofText text]? with
  | none => simp
  | some node => cases node <;> simp

/-- The path map and the child lists agree: the keys are normal, a directory lists
segments that exist below it and none of them twice, and every node but the root is
listed by the directory above it. -/
structure Consistent (vfs : Vfs) : Prop where
  root : vfs.IsDirectory Path.root
  normal : ∀ {path : Path}, path ∈ vfs.nodes → path.Normal
  segments : ∀ {path : Path} {names : List String}, vfs.nodes[path]? = some (.dir names) →
    ∀ name ∈ names, IsSegment name
  distinct : ∀ {path : Path} {names : List String}, vfs.nodes[path]? = some (.dir names) → names.Nodup
  present : ∀ {path : Path} {names : List String}, vfs.nodes[path]? = some (.dir names) →
    ∀ name ∈ names, path.child name ∈ vfs.nodes
  listed : ∀ {path : Path}, path ∈ vfs.nodes → path ≠ Path.root →
    ∃ names, vfs.nodes[path.parent]? = some (.dir names) ∧ path.name ∈ names

theorem childBreach?_eq_none_iff {vfs : Vfs} {path : Path} {before names : List String} :
    vfs.childBreach? path before names = none ↔
      (∀ name ∈ names, IsSegment name ∧ path.child name ∈ vfs.nodes) ∧
        names.Nodup ∧ ∀ name ∈ names, name ∉ before := by
  induction names generalizing before with
  | nil => simp [childBreach?]
  | cons name rest ih =>
    rw [childBreach?]
    by_cases segment : IsSegment name
    · by_cases repeated : name ∈ before
      · simp [segment, repeated]
      · by_cases exists_ : path.child name ∈ vfs.nodes
        · rw [if_neg (not_not.mpr segment), if_neg repeated, if_neg (not_not.mpr exists_), ih]
          simp only [List.forall_mem_cons, List.nodup_cons, List.mem_append, List.mem_singleton, not_or]
          constructor
          · rintro ⟨all, distinct, fresh⟩
            exact ⟨⟨⟨segment, exists_⟩, all⟩, ⟨fun member => (fresh name member).2 rfl, distinct⟩,
              repeated, fun other member => (fresh other member).1⟩
          · rintro ⟨⟨_, all⟩, ⟨first, distinct⟩, _, fresh⟩
            exact ⟨all, distinct, fun other member =>
              ⟨fresh other member, fun same => first (same ▸ member)⟩⟩
        · simp [segment, repeated, exists_]
    · simp [segment]

theorem isListed_iff {vfs : Vfs} {path : Path} :
    vfs.isListed path = true ↔
      ∃ names, vfs.nodes[path.parent]? = some (.dir names) ∧ path.name ∈ names := by
  unfold isListed
  cases vfs.nodes[path.parent]? with
  | none => simp
  | some node => cases node <;> simp

theorem listingBreach?_eq_none_iff {vfs : Vfs} {path : Path} {node : Node} :
    vfs.listingBreach? path node = none ↔ ∀ names, node = .dir names →
      (∀ name ∈ names, IsSegment name ∧ path.child name ∈ vfs.nodes) ∧ names.Nodup := by
  cases node with
  | dir names => simp [listingBreach?, childBreach?_eq_none_iff]
  | file content => simp [listingBreach?]

theorem entryBreach?_eq_none_iff {vfs : Vfs} {path : Path} {node : Node} :
    vfs.entryBreach? path node = none ↔ path.Normal ∧ vfs.listingBreach? path node = none ∧
      (path = Path.root ∨ vfs.isListed path = true) := by
  unfold entryBreach?
  by_cases normal : path.Normal
  · cases vfs.listingBreach? path node <;> simp [normal, or_iff_not_imp_left]
  · simp [normal]

/-- The audit finds no contradiction exactly in a consistent file system. -/
theorem breach?_eq_none_iff {vfs : Vfs} : vfs.breach? = none ↔ vfs.Consistent := by
  have audit : vfs.breach? = none ↔ vfs.IsDirectory Path.root ∧
      ∀ path node, vfs.nodes[path]? = some node → vfs.entryBreach? path node = none := by
    rw [breach?]
    split
    · next names found =>
      rw [List.findSome?_eq_none_iff]
      simp only [IsDirectory, found, Option.some.injEq, Node.dir.injEq, exists_eq', true_and]
      exact ⟨fun all path node held => all (path, node) (mem_entries_iff.mpr held),
        fun all entry member => all entry.1 entry.2 (mem_entries_iff.mp member)⟩
    · next other =>
      constructor
      · simp
      · rintro ⟨⟨names, found⟩, _⟩
        exact absurd found (other names)
  rw [audit]
  constructor
  · rintro ⟨root, entries⟩
    have entry {path : Path} {node : Node} (found : vfs.nodes[path]? = some node) :=
      entryBreach?_eq_none_iff.mp (entries path node found)
    have listing {path : Path} {names : List String} (found : vfs.nodes[path]? = some (.dir names)) :=
      listingBreach?_eq_none_iff.mp (entry found).2.1 names rfl
    refine ⟨root, ?_, fun found name member => ((listing found).1 name member).1,
      fun found => (listing found).2, fun found name member => ((listing found).1 name member).2, ?_⟩
    · intro path member
      obtain ⟨node, found⟩ := mem_nodes_iff.mp member
      exact (entry found).1
    · intro path member nonroot
      obtain ⟨node, found⟩ := mem_nodes_iff.mp member
      exact isListed_iff.mp ((entry found).2.2.resolve_left nonroot)
  · intro consistent
    refine ⟨consistent.root, fun path node found => ?_⟩
    have member : path ∈ vfs.nodes := mem_nodes_iff.mpr ⟨node, found⟩
    refine entryBreach?_eq_none_iff.mpr ⟨consistent.normal member, ?_, ?_⟩
    · refine listingBreach?_eq_none_iff.mpr fun names same => ?_
      subst same
      exact ⟨fun name inside => ⟨consistent.segments found name inside, consistent.present found name inside⟩,
        consistent.distinct found⟩
    · by_cases top : path = Path.root
      · exact .inl top
      · exact .inr (isListed_iff.mpr (consistent.listed member top))

namespace Consistent
variable {vfs : Vfs} {path : Path}

theorem parent_isDirectory (consistent : vfs.Consistent) (member : path ∈ vfs.nodes)
    (nonroot : path ≠ Path.root) : vfs.IsDirectory path.parent := by
  obtain ⟨names, found, _⟩ := consistent.listed member nonroot
  exact ⟨names, found⟩

theorem ancestor_isDirectory (consistent : vfs.Consistent) {rest : List String} (below : rest ≠ [])
    (member : path ++ rest ∈ vfs.nodes) : vfs.IsDirectory path := by
  induction rest using List.reverseRecOn with
  | nil => exact absurd rfl below
  | append_singleton front last ih =>
    rw [← List.append_assoc] at member
    have above := consistent.parent_isDirectory member (Path.child_ne_root (path ++ front) last)
    rw [show (path ++ front ++ [last]).parent = path ++ front from Path.parent_child _ last] at above
    by_cases top : front = []
    · simpa [top] using above
    · exact ih top above.mem

theorem mem_of_append (consistent : vfs.Consistent) {rest : List String}
    (member : path ++ rest ∈ vfs.nodes) : path ∈ vfs.nodes := by
  by_cases top : rest = []
  · simpa [top] using member
  · exact (consistent.ancestor_isDirectory top member).mem

theorem mem_of_within (consistent : vfs.Consistent) {top : Path} (within : top <+: path)
    (member : path ∈ vfs.nodes) : top ∈ vfs.nodes := by
  obtain ⟨rest, rfl⟩ := within
  exact consistent.mem_of_append member

theorem isDirectory_of_within (consistent : vfs.Consistent) {top : Path} (within : top <+: path)
    (directory : vfs.IsDirectory path) : vfs.IsDirectory top := by
  obtain ⟨rest, rfl⟩ := within
  by_cases same : rest = []
  · simpa [same] using directory
  · exact consistent.ancestor_isDirectory same directory.mem

theorem child_mem_iff (consistent : vfs.Consistent) {name : String} {names : List String}
    (found : vfs.nodes[path]? = some (.dir names)) : path.child name ∈ vfs.nodes ↔ name ∈ names := by
  constructor
  · intro member
    obtain ⟨others, above, listed⟩ := consistent.listed member (Path.child_ne_root path name)
    rw [Path.parent_child, found] at above
    simpa [Node.dir.inj (Option.some.inj above)] using listed
  · exact consistent.present found name

end Consistent

theorem empty_consistent : Vfs.empty.Consistent := by
  have only (path : Path) : Vfs.empty.nodes[path]? = if Path.root = path then some .emptyDir else none := by
    simp [empty, getElem?_insert]
  have top {path : Path} {node : Node} (found : Vfs.empty.nodes[path]? = some node) :
      Path.root = path ∧ node = .emptyDir := by
    rw [only] at found
    split at found
    · next same => exact ⟨same, (Option.some.inj found).symm⟩
    · simp at found
  have lists {path : Path} {names : List String} (found : Vfs.empty.nodes[path]? = some (.dir names)) :
      names = [] := Node.dir.inj (top found).2
  refine ⟨⟨[], by rw [only]; rfl⟩, ?_, ?_, ?_, ?_, ?_⟩
  · intro path member
    obtain ⟨node, found⟩ := mem_nodes_iff.mp member
    rw [← (top found).1]
    exact Path.normal_root
  · intro path names found
    simp [lists found]
  · intro path names found
    simp [lists found]
  · intro path names found
    simp [lists found]
  · intro path member nonroot
    obtain ⟨node, found⟩ := mem_nodes_iff.mp member
    exact absurd (top found).1.symm nonroot

end Vfs
end LessonShell

import LessonShell.KeyPair
import LessonShell.Proofs.Vfs.Consistent
import LessonShell.Proofs.Vfs.Refusals

/-! Operations that create or overwrite one node. Each leaves the file system as it was,
replaces the content of a file, or adds one node and ends the list of its directory with
its name; none of them removes a node or turns a directory into a file. -/
namespace LessonShell.Vfs

/-- A node without children was added at `path`, and its name ends the list above it. -/
structure Added (before : Vfs) (path : Path) (node : Node) (after : Vfs) : Prop where
  absent : path ∉ before.nodes
  childless : ∀ names, node = .dir names → names = []
  lookup : ∃ names, before.nodes[path.parent]? = some (.dir names) ∧ ∀ other, after.nodes[other]? =
    if other = path then some node
    else if other = path.parent then some (.dir (names ++ [path.name]))
    else before.nodes[other]?

/-- The file at `path` has another content. -/
structure Overwritten (before : Vfs) (path : Path) (content : String) (after : Vfs) : Prop where
  file : ∃ old, before.nodes[path]? = some (.file old)
  lookup : ∀ other, after.nodes[other]? =
    if other = path then some (.file content) else before.nodes[other]?

/-- The effect that creating or overwriting a node at `path` can have. -/
inductive Growth (before : Vfs) (path : Path) : Vfs → Prop
  | same : Growth before path before
  | overwritten {after : Vfs} {content : String} (change : Overwritten before path content after) :
    Growth before path after
  | added {after : Vfs} {node : Node} (change : Added before path node after) : Growth before path after

/-- A node was added at `path`, unless something was there already. -/
def Created (before : Vfs) (path : Path) (node : Node) (after : Vfs) : Prop :=
  after = before ∨ Added before path node after

theorem Created.growth {before after : Vfs} {path : Path} {node : Node}
    (created : Created before path node after) : Growth before path after := by
  rcases created with rfl | change
  · exact .same
  · exact .added change

namespace Added
variable {before after : Vfs} {path : Path} {node : Node}

theorem nonroot (change : Added before path node after) (consistent : before.Consistent) :
    path ≠ Path.root :=
  fun top => change.absent (top ▸ consistent.root.mem)

theorem unlisted (change : Added before path node after) (consistent : before.Consistent)
    {names : List String} (above : before.nodes[path.parent]? = some (.dir names)) :
    path.name ∉ names := by
  intro member
  have existing := consistent.present above path.name member
  rw [Path.child_parent_name (change.nonroot consistent)] at existing
  exact change.absent existing

theorem mem_iff (change : Added before path node after) {other : Path} :
    other ∈ after.nodes ↔ other = path ∨ other ∈ before.nodes := by
  obtain ⟨names, above, lookup⟩ := change.lookup
  simp only [mem_nodes_iff, lookup]
  by_cases new : other = path
  · simp [new]
  · by_cases parent : other = path.parent
    · rw [parent] at new
      simp [parent, new, above]
    · simp [new, parent]

theorem listing (change : Added before path node after) {other : Path} {names : List String}
    (found : after.nodes[other]? = some (.dir names)) :
    names = [] ∨ before.nodes[other]? = some (.dir names) ∨
      other = path.parent ∧ ∃ old, before.nodes[other]? = some (.dir old) ∧ names = old ++ [path.name] := by
  obtain ⟨old, above, lookup⟩ := change.lookup
  rw [lookup] at found
  split at found
  · exact .inl (change.childless names (Option.some.inj found))
  · split at found
    · next parent =>
      have grown := Node.dir.inj (Option.some.inj found)
      exact .inr (.inr ⟨parent, old, parent ▸ above, grown.symm⟩)
    · exact .inr (.inl found)

theorem relisted (change : Added before path node after) {other : Path} {names : List String}
    (found : before.nodes[other]? = some (.dir names)) :
    ∃ grown, after.nodes[other]? = some (.dir grown) ∧ names <+: grown := by
  obtain ⟨old, above, lookup⟩ := change.lookup
  have differs : other ≠ path := by
    rintro rfl
    exact change.absent (mem_nodes_iff.mpr ⟨_, found⟩)
  rw [lookup, if_neg differs]
  split
  · next parent =>
    rw [parent, above] at found
    have same := Node.dir.inj (Option.some.inj found)
    exact ⟨_, rfl, same ▸ List.prefix_append old [path.name]⟩
  · exact ⟨names, found, List.prefix_refl names⟩

theorem consistent (change : Added before path node after) (consistent : before.Consistent)
    (normal : path.Normal) : after.Consistent := by
  have nonroot := change.nonroot consistent
  have segment : IsSegment path.name := by
    rw [← Path.child_parent_name nonroot] at normal
    exact (Path.normal_child.mp normal).2
  refine ⟨?_, ?_, ?_, ?_, ?_, ?_⟩
  · obtain ⟨names, found⟩ := consistent.root
    obtain ⟨grown, still, _⟩ := change.relisted found
    exact ⟨grown, still⟩
  · intro other member
    rcases change.mem_iff.mp member with rfl | old
    · exact normal
    · exact consistent.normal old
  · intro other names found name member
    rcases change.listing found with rfl | old | ⟨rfl, old, above, rfl⟩
    · simp at member
    · exact consistent.segments old name member
    · rcases List.mem_append.mp member with inside | last
      · exact consistent.segments above name inside
      · exact List.mem_singleton.mp last ▸ segment
  · intro other names found
    rcases change.listing found with rfl | old | ⟨rfl, old, above, rfl⟩
    · exact List.nodup_nil
    · exact consistent.distinct old
    · have fresh := change.unlisted consistent above
      refine List.nodup_append.mpr ⟨consistent.distinct above, by simp, ?_⟩
      intro name inside last held same
      exact fresh (List.mem_singleton.mp held ▸ same ▸ inside)
  · intro other names found name member
    rw [change.mem_iff]
    rcases change.listing found with rfl | old | ⟨rfl, old, above, rfl⟩
    · simp at member
    · exact .inr (consistent.present old name member)
    · rcases List.mem_append.mp member with inside | last
      · exact .inr (consistent.present above name inside)
      · rw [List.mem_singleton.mp last]
        exact .inl (Path.child_parent_name nonroot)
  · intro other member top
    rcases change.mem_iff.mp member with rfl | old
    · obtain ⟨names, above, lookup⟩ := change.lookup
      refine ⟨names ++ [other.name], ?_, by simp⟩
      rw [lookup, if_neg (Path.parent_ne nonroot), if_pos rfl]
    · obtain ⟨names, above, listed⟩ := consistent.listed old top
      obtain ⟨grown, still, kept⟩ := change.relisted above
      exact ⟨grown, still, kept.subset listed⟩

theorem isDirectory (change : Added before path .emptyDir after) : after.IsDirectory path := by
  obtain ⟨names, _, lookup⟩ := change.lookup
  refine ⟨[], ?_⟩
  rw [lookup, if_pos rfl]
  rfl

end Added

theorem overwritten_insert {vfs : Vfs} {path : Path} {old : String}
    (file : vfs.nodes[path]? = some (.file old)) (content : String) :
    Overwritten vfs path content ⟨vfs.nodes.insert path (.file content)⟩ :=
  ⟨⟨old, file⟩, fun other => by simp only [getElem?_insert, eq_comm]⟩

namespace Overwritten
variable {before after : Vfs} {path : Path} {content : String}

theorem mem_iff (change : Overwritten before path content after) {other : Path} :
    other ∈ after.nodes ↔ other ∈ before.nodes := by
  obtain ⟨old, file⟩ := change.file
  simp only [mem_nodes_iff, change.lookup]
  by_cases here : other = path
  · simp [here, file]
  · simp [here]

theorem listing_iff (change : Overwritten before path content after) {other : Path}
    {names : List String} :
    after.nodes[other]? = some (.dir names) ↔ before.nodes[other]? = some (.dir names) := by
  obtain ⟨old, file⟩ := change.file
  rw [change.lookup]
  by_cases here : other = path
  · simp [here, file]
  · simp [here]

theorem consistent (change : Overwritten before path content after) (consistent : before.Consistent) :
    after.Consistent := by
  refine ⟨?_, ?_, ?_, ?_, ?_, ?_⟩
  · obtain ⟨names, found⟩ := consistent.root
    exact ⟨names, change.listing_iff.mpr found⟩
  · intro other member
    exact consistent.normal (change.mem_iff.mp member)
  · intro other names found
    exact consistent.segments (change.listing_iff.mp found)
  · intro other names found
    exact consistent.distinct (change.listing_iff.mp found)
  · intro other names found name member
    exact change.mem_iff.mpr (consistent.present (change.listing_iff.mp found) name member)
  · intro other member top
    obtain ⟨names, above, listed⟩ := consistent.listed (change.mem_iff.mp member) top
    exact ⟨names, change.listing_iff.mpr above, listed⟩

end Overwritten

namespace Growth
variable {before after : Vfs} {path : Path}

theorem consistent (growth : Growth before path after) (normal : path.Normal)
    (consistent : before.Consistent) : after.Consistent := by
  cases growth with
  | same => exact consistent
  | overwritten change => exact change.consistent consistent
  | added change => exact change.consistent consistent normal

theorem isDirectory (growth : Growth before path after) {other : Path}
    (directory : before.IsDirectory other) : after.IsDirectory other := by
  obtain ⟨names, found⟩ := directory
  cases growth with
  | same => exact ⟨names, found⟩
  | overwritten change => exact ⟨names, change.listing_iff.mpr found⟩
  | added change =>
    obtain ⟨grown, still, _⟩ := change.relisted found
    exact ⟨grown, still⟩

end Growth

theorem siblings_eq_ok_iff {vfs : Vfs} {path : Path} {names : List String} :
    vfs.siblings path = .ok names ↔ vfs.nodes[path.parent]? = some (.dir names) := by
  unfold siblings
  cases vfs.nodes[path.parent]? with
  | none => simp
  | some node => cases node <;> simp

theorem editSiblings_eq_ok_iff {vfs after : Vfs} {path : Path} {edit : List String → List String} :
    vfs.editSiblings path edit = (.ok (), after) ↔ ∃ names, vfs.nodes[path.parent]? = some (.dir names) ∧
      after = ⟨vfs.nodes.insert path.parent (.dir (edit names))⟩ := by
  rw [editSiblings]
  cases listed : vfs.siblings path with
  | ok names =>
    rw [siblings_eq_ok_iff] at listed
    simp [listed, eq_comm]
  | error fault =>
    have unlisted (names : List String) : vfs.nodes[path.parent]? ≠ some (.dir names) := by
      intro found
      rw [siblings_eq_ok_iff.mpr found] at listed
      cases listed
    simp [unlisted]

section operations
variable {vfs after : Vfs} {path : Path} {node : Node} {text content : String} {made : Bool}

theorem insertNew_added (consistent : vfs.Consistent) (absent : path ∉ vfs.nodes)
    (childless : ∀ names, node = .dir names → names = []) (done : vfs.insertNew path node = (.ok (), after)) :
    Added vfs path node after := by
  unfold insertNew at done
  split at done
  · next listed edited =>
    obtain ⟨names, above, rfl⟩ := editSiblings_eq_ok_iff.mp edited
    have nonroot : path ≠ Path.root := fun top => absent (top ▸ consistent.root.mem)
    have unlisted : path.name ∉ names := by
      intro member
      have existing := consistent.present above path.name member
      rw [Path.child_parent_name nonroot] at existing
      exact absent existing
    refine ⟨absent, childless, names, above, fun other => ?_⟩
    rw [← (Prod.mk.inj done).2, getElem?_insert, getElem?_insert, listName, if_neg unlisted]
    simp only [eq_comm]
  · cases done

theorem exists_insertNew (directory : vfs.IsDirectory path.parent) :
    ∃ after, vfs.insertNew path node = (.ok (), after) := by
  obtain ⟨names, above⟩ := directory
  have edited : vfs.editSiblings path (listName path.name) = (.ok (), _) :=
    editSiblings_eq_ok_iff.mpr ⟨names, above, rfl⟩
  exact ⟨_, by rw [insertNew, edited]⟩

theorem mkdir_added (consistent : vfs.Consistent) (done : vfs.mkdir text = (.ok (), after)) :
    Added vfs (Path.ofText text) .emptyDir after := by
  simp only [mkdir] at done
  split at done
  · cases done
  · next absent =>
    exact insertNew_added consistent (not_mem_nodes_iff.mpr absent) (by simp [Node.emptyDir]) done

theorem exists_mkdir (absent : Path.ofText text ∉ vfs.nodes)
    (directory : vfs.IsDirectory (Path.ofText text).parent) : ∃ after, vfs.mkdir text = (.ok (), after) := by
  have created : ∃ after, vfs.insertNew (Path.ofText text) .emptyDir = (.ok (), after) :=
    exists_insertNew directory
  obtain ⟨after, added⟩ := created
  exact ⟨after, by simp only [mkdir, not_mem_nodes_iff.mp absent, added]⟩

theorem mkdir_growth (consistent : vfs.Consistent) (done : vfs.mkdir text = (.ok (), after)) :
    Growth vfs (Path.ofText text) after :=
  .added (mkdir_added consistent done)

theorem create_eq_ok_iff : vfs.create path node = (.ok made, after) ↔
    made = true ∧ vfs.insertNew path node = (.ok (), after) := by
  rw [create]
  split
  · next grown inserted => simp [inserted, eq_comm]
  · next fault left refused => simp [refused]

private theorem create_added (consistent : vfs.Consistent) (absent : path ∉ vfs.nodes)
    (childless : ∀ names, node = .dir names → names = []) (done : vfs.create path node = (.ok made, after)) :
    Added vfs path node after :=
  insertNew_added consistent absent childless (create_eq_ok_iff.mp done).2

theorem ensureDir_cases (consistent : vfs.Consistent) (done : vfs.ensureDir text = (.ok made, after)) :
    (∃ names, vfs.nodes[Path.ofText text]? = some (.dir names) ∧ after = vfs) ∨
      Added vfs (Path.ofText text) .emptyDir after := by
  simp only [ensureDir] at done
  split at done
  · next names found => exact .inl ⟨names, found, (Prod.mk.inj done).2.symm⟩
  · cases done
  · next absent =>
    exact .inr (create_added consistent (not_mem_nodes_iff.mpr absent) (by simp [Node.emptyDir]) done)

theorem ensureDir_created (consistent : vfs.Consistent) (done : vfs.ensureDir text = (.ok made, after)) :
    Created vfs (Path.ofText text) .emptyDir after :=
  (ensureDir_cases consistent done).imp_left fun found => found.elim fun _ same => same.2

theorem ensureDir_growth (consistent : vfs.Consistent) (done : vfs.ensureDir text = (.ok made, after)) :
    Growth vfs (Path.ofText text) after :=
  (ensureDir_created consistent done).growth

theorem ensureDir_consistent (consistent : vfs.Consistent) (done : vfs.ensureDir text = (.ok made, after)) :
    after.Consistent :=
  (ensureDir_growth consistent done).consistent (Path.normal_ofText text) consistent

theorem write_growth (consistent : vfs.Consistent) (done : vfs.write text content = (.ok made, after)) :
    Growth vfs (Path.ofText text) after := by
  simp only [write] at done
  split at done
  · next old file =>
    rw [← (Prod.mk.inj done).2]
    exact .overwritten (overwritten_insert file content)
  · cases done
  · next absent =>
    exact .added (create_added consistent (not_mem_nodes_iff.mpr absent) (by simp) done)

theorem write_consistent (consistent : vfs.Consistent) (done : vfs.write text content = (.ok made, after)) :
    after.Consistent :=
  (write_growth consistent done).consistent (Path.normal_ofText text) consistent

theorem insertNew_lookup (done : vfs.insertNew path node = (.ok (), after)) :
    after.nodes[path]? = some node := by
  unfold insertNew at done
  split at done
  · next listed edited => rw [← (Prod.mk.inj done).2, getElem?_insert, if_pos rfl]
  · cases done

theorem write_lookup (done : vfs.write text content = (.ok made, after)) :
    after.nodes[Path.ofText text]? = some (.file content) := by
  simp only [write] at done
  split at done
  · rw [← (Prod.mk.inj done).2, getElem?_insert, if_pos rfl]
  · cases done
  · exact insertNew_lookup (create_eq_ok_iff.mp done).2

theorem touch_created (consistent : vfs.Consistent) (done : vfs.touch text = (.ok made, after)) :
    Created vfs (Path.ofText text) (.file "") after := by
  simp only [touch] at done
  split at done
  · exact .inl (Prod.mk.inj done).2.symm
  · next absent =>
    exact .inr (create_added consistent (not_mem_nodes_iff.mpr absent) (by simp) done)

theorem touch_growth (consistent : vfs.Consistent) (done : vfs.touch text = (.ok made, after)) :
    Growth vfs (Path.ofText text) after :=
  (touch_created consistent done).growth

end operations

/-- An installation creates the directory and grows twice in it, unless a step is refused: then it
ends with what the steps before have left. -/
theorem install_growth {vfs : Vfs} (consistent : vfs.Consistent) (home name algorithm comment : String) :
    ∃ prepared half, Created vfs (Path.ofText (KeyPair.directory home)) .emptyDir prepared ∧
      Growth prepared (Path.ofText (PathText.join (KeyPair.directory home) name)) half ∧
      Growth half (Path.ofText (PathText.join (KeyPair.directory home) name ++ ".pub"))
        (KeyPair.install vfs home name algorithm comment).2 := by
  unfold KeyPair.install
  simp only
  split
  · next refused => exact ⟨vfs, vfs, .inl rfl, .same, ensureDir_refused refused ▸ .same⟩
  · next made prepared ensured =>
    have first := ensureDir_created consistent ensured
    have ready := first.growth.consistent (Path.normal_ofText _) consistent
    split
    · next refused => exact ⟨prepared, prepared, first, .same, write_refused refused ▸ .same⟩
    · next new half written =>
      have second := write_growth ready written
      have halfway := second.consistent (Path.normal_ofText _) ready
      split
      · next refused => exact ⟨prepared, half, first, second, write_refused refused ▸ .same⟩
      · next other whole finished => exact ⟨prepared, half, first, second, write_growth halfway finished⟩

theorem install_consistent {vfs : Vfs} (consistent : vfs.Consistent)
    (home name algorithm comment : String) :
    (KeyPair.install vfs home name algorithm comment).2.Consistent := by
  obtain ⟨prepared, half, first, second, third⟩ := install_growth consistent home name algorithm comment
  have ready := first.growth.consistent (Path.normal_ofText _) consistent
  have halfway := second.consistent (Path.normal_ofText _) ready
  exact third.consistent (Path.normal_ofText _) halfway

theorem install_isDirectory {vfs : Vfs} (consistent : vfs.Consistent)
    (home name algorithm comment : String) {path : Path} (directory : vfs.IsDirectory path) :
    (KeyPair.install vfs home name algorithm comment).2.IsDirectory path := by
  obtain ⟨prepared, half, first, second, third⟩ := install_growth consistent home name algorithm comment
  exact third.isDirectory (second.isDirectory (first.growth.isDirectory directory))

end LessonShell.Vfs

import LessonShell.Proofs.Vfs.Relocation

/-! What a move keeps. The lists lose the source and gain the target, every other node is
where it was, and a consistent file system stays consistent. -/
namespace LessonShell.Vfs

namespace Renamed
variable {before after : Vfs} {source target : Path}

theorem mem_moved_iff (effect : Renamed before source target after) {rest : List String} :
    target ++ rest ∈ after.nodes ↔ source ++ rest ∈ before.nodes := by
  rw [mem_nodes_iff, mem_nodes_iff, effect.moved]

private theorem mem_middle {left right : List String} {old name : String} (absent : old ∉ left ++ right) :
    name ∈ left ++ right ↔ name ∈ left ++ old :: right ∧ name ≠ old := by
  rw [List.perm_middle.mem_iff, List.mem_cons]
  constructor
  · intro member
    exact ⟨.inr member, fun same => absent (same ▸ member)⟩
  · intro member
    exact member.1.resolve_left member.2

/-- What a directory lists after the move: the target, and what it listed but for the source. -/
theorem relisted (effect : Renamed before source target after) (consistent : before.Consistent)
    (movable : Movable before source target) {path : Path} {old : List String}
    (found : before.nodes[path]? = some (.dir old)) (outside : ¬ source <+: path) :
    ∃ new, after.nodes[path]? = some (.dir new) ∧ new.Nodup ∧
      ∀ name, name ∈ new ↔ path.child name = target ∨ name ∈ old ∧ path.child name ≠ source := by
  have targetNonroot := movable.target_nonroot consistent
  have apart := movable.not_under_target consistent (mem_nodes_iff.mpr ⟨_, found⟩)
  have distinct := consistent.distinct found
  have fresh (atTarget : path = target.parent) : target.name ∉ old := by
    rw [← consistent.child_mem_iff found, atTarget, Path.child_parent_name targetNonroot]
    exact movable.free
  simp only [ne_eq, Path.child_eq_iff targetNonroot, Path.child_eq_iff movable.nonroot]
  by_cases atSource : path = source.parent
  · have same {names : List String} (held : before.nodes[source.parent]? = some (.dir names)) :
        old = names := listing_unique found (atSource ▸ held)
    by_cases atTarget : path = target.parent
    · -- The source is replaced where it stood.
      obtain ⟨left, right, held, still⟩ := effect.replaced (atSource.symm.trans atTarget)
      have listed := same held
      rw [listed, List.nodup_middle, List.nodup_cons] at distinct
      have absent : target.name ∉ left ++ right := by
        intro member
        apply fresh atTarget
        rw [listed]
        exact ((mem_middle distinct.1).mp member).1
      refine ⟨_, atSource ▸ still, ?_, fun name => ?_⟩
      · rw [List.nodup_middle, List.nodup_cons]
        exact ⟨absent, distinct.2⟩
      · rw [List.perm_middle.mem_iff, List.mem_cons, mem_middle distinct.1, listed]
        simp only [atTarget, atSource.symm.trans atTarget, true_and]
    · have differ : source.parent ≠ target.parent := fun equal => atTarget (atSource.trans equal)
      obtain ⟨left, right, held, still⟩ := effect.removed differ
      have listed := same held
      rw [listed, List.nodup_middle, List.nodup_cons] at distinct
      refine ⟨_, atSource ▸ still, distinct.2, fun name => ?_⟩
      rw [mem_middle distinct.1, listed]
      simp only [atSource, differ, false_and, false_or, true_and, ne_eq]
  · by_cases atTarget : path = target.parent
    · have differ : target.parent ≠ source.parent := fun equal => atSource (atTarget.trans equal)
      obtain ⟨names, held, still⟩ := effect.appended (Ne.symm differ)
      have listed : old = names := listing_unique found (atTarget ▸ held)
      have absent := fresh atTarget
      rw [listed] at distinct absent
      refine ⟨_, atTarget ▸ still, List.nodup_append.mpr ⟨distinct, by simp, ?_⟩, fun name => ?_⟩
      · intro name inside last held same
        exact absent (List.mem_singleton.mp held ▸ same ▸ inside)
      · rw [List.mem_append, List.mem_singleton, or_comm, listed]
        simp only [atTarget, differ, false_and, true_and, not_false_eq_true, and_true]
    · refine ⟨old, (effect.kept path outside apart atSource atTarget).trans found, distinct, fun name => ?_⟩
      simp only [atTarget, atSource, false_and, false_or, not_false_eq_true, and_true]

theorem isDirectory (effect : Renamed before source target after) (consistent : before.Consistent)
    (movable : Movable before source target) {path : Path} (directory : before.IsDirectory path)
    (outside : ¬ source <+: path) : after.IsDirectory path := by
  obtain ⟨names, found⟩ := directory
  obtain ⟨others, still, _, _⟩ := effect.relisted consistent movable found outside
  exact ⟨others, still⟩

theorem isDirectory_before (effect : Renamed before source target after) (consistent : before.Consistent)
    (movable : Movable before source target) {path : Path} (directory : after.IsDirectory path)
    (apart : ¬ target <+: path) : before.IsDirectory path ∧ ¬ source <+: path := by
  have outside : ¬ source <+: path := fun within => effect.cleared path within directory.mem
  refine ⟨?_, outside⟩
  by_cases atSource : path = source.parent
  · exact atSource ▸ consistent.parent_isDirectory movable.present movable.nonroot
  by_cases atTarget : path = target.parent
  · exact atTarget ▸ movable.directory
  obtain ⟨names, found⟩ := directory
  exact ⟨names, (effect.kept path outside apart atSource atTarget).symm.trans found⟩

theorem listing (effect : Renamed before source target after) (consistent : before.Consistent)
    (movable : Movable before source target) {path : Path} {names : List String}
    (found : after.nodes[path]? = some (.dir names)) (apart : ¬ target <+: path) :
    names.Nodup ∧ ∃ old, before.nodes[path]? = some (.dir old) ∧
      ∀ name ∈ names, path.child name = target ∨ name ∈ old ∧ path.child name ≠ source := by
  obtain ⟨⟨old, held⟩, outside⟩ := effect.isDirectory_before consistent movable ⟨names, found⟩ apart
  obtain ⟨new, still, distinct, all⟩ := effect.relisted consistent movable held outside
  rw [listing_unique found still]
  exact ⟨distinct, old, held, fun name => (all name).mp⟩

theorem mem_cases (effect : Renamed before source target after) (consistent : before.Consistent)
    (movable : Movable before source target) {path : Path} (member : path ∈ after.nodes) :
    (∃ rest, path = target ++ rest ∧ source ++ rest ∈ before.nodes) ∨
      path ∈ before.nodes ∧ ¬ source <+: path ∧ ¬ target <+: path := by
  have outside : ¬ source <+: path := fun within => effect.cleared path within member
  by_cases apart : target <+: path
  · obtain ⟨rest, rfl⟩ := apart
    exact .inl ⟨rest, rfl, effect.mem_moved_iff.mp member⟩
  · refine .inr ⟨?_, outside, apart⟩
    by_cases parent : path = source.parent
    · exact parent ▸ movable.source_parent_mem consistent
    by_cases directory : path = target.parent
    · exact directory ▸ movable.directory.mem
    rwa [mem_nodes_iff, effect.kept path outside apart parent directory, ← mem_nodes_iff] at member

theorem mem_of_outside (effect : Renamed before source target after) (consistent : before.Consistent)
    (movable : Movable before source target) {path : Path} (member : path ∈ before.nodes)
    (outside : ¬ source <+: path) : path ∈ after.nodes := by
  have apart := movable.not_under_target consistent member
  by_cases parent : path = source.parent
  · have directory := consistent.parent_isDirectory movable.present movable.nonroot
    exact parent ▸ (effect.isDirectory consistent movable directory movable.source_parent_outside).mem
  by_cases directory : path = target.parent
  · exact directory ▸
      (effect.isDirectory consistent movable movable.directory movable.target_parent_outside).mem
  rwa [mem_nodes_iff, effect.kept path outside apart parent directory, ← mem_nodes_iff]

private theorem child_append (path : Path) (rest : List String) (name : String) :
    Path.child (path ++ rest) name = path ++ (rest ++ [name]) := by
  simp [Path.child]

theorem moved_listing (effect : Renamed before source target after) {rest names : List String}
    (found : after.nodes[target ++ rest]? = some (.dir names)) :
    before.nodes[source ++ rest]? = some (.dir names) :=
  (effect.moved rest).symm.trans found

theorem target_mem (effect : Renamed before source target after) (movable : Movable before source target) :
    target ∈ after.nodes := by
  have shifted : target ++ [] ∈ after.nodes ↔ source ++ [] ∈ before.nodes := effect.mem_moved_iff
  rw [List.append_nil, List.append_nil] at shifted
  exact shifted.mpr movable.present

theorem present (effect : Renamed before source target after) (consistent : before.Consistent)
    (movable : Movable before source target) {path : Path} {names : List String}
    (found : after.nodes[path]? = some (.dir names)) {name : String} (member : name ∈ names) :
    path.child name ∈ after.nodes := by
  by_cases within : target <+: path
  · obtain ⟨rest, rfl⟩ := within
    have existing := consistent.present (effect.moved_listing found) name member
    rw [child_append] at existing ⊢
    exact effect.mem_moved_iff.mpr existing
  · obtain ⟨_, old, held, all⟩ := effect.listing consistent movable found within
    rcases all name member with new | ⟨listed, apart⟩
    · rw [new]
      exact effect.target_mem movable
    · have outside : ¬ source <+: path := fun below =>
        effect.cleared path below (mem_nodes_iff.mpr ⟨_, found⟩)
      refine effect.mem_of_outside consistent movable (consistent.present held name listed) ?_
      rw [Path.prefix_child_iff, not_or]
      exact ⟨outside, Ne.symm apart⟩

theorem target_listed (effect : Renamed before source target after) (consistent : before.Consistent)
    (movable : Movable before source target) :
    ∃ names, after.nodes[target.parent]? = some (.dir names) ∧ target.name ∈ names := by
  obtain ⟨old, found⟩ := movable.directory
  obtain ⟨names, still, _, all⟩ := effect.relisted consistent movable found movable.target_parent_outside
  have itself := Path.child_parent_name (movable.target_nonroot consistent)
  exact ⟨names, still, (all target.name).mpr (.inl itself)⟩

theorem listed (effect : Renamed before source target after) (consistent : before.Consistent)
    (movable : Movable before source target) {path : Path} (member : path ∈ after.nodes)
    (nonroot : path ≠ Path.root) :
    ∃ names, after.nodes[path.parent]? = some (.dir names) ∧ path.name ∈ names := by
  rcases effect.mem_cases consistent movable member with ⟨rest, rfl, old⟩ | ⟨old, outside, _⟩
  · cases rest using List.reverseRecOn with
    | nil =>
      rw [List.append_nil]
      exact effect.target_listed consistent movable
    | append_singleton front last =>
      rw [← child_append] at old ⊢
      obtain ⟨names, above, inside⟩ := consistent.listed old (Path.child_ne_root _ last)
      rw [Path.parent_child] at above ⊢
      rw [Path.name_child] at inside ⊢
      exact ⟨names, (effect.moved front).trans above, inside⟩
  · obtain ⟨names, above, inside⟩ := consistent.listed old nonroot
    have outsideParent : ¬ source <+: path.parent :=
      fun within => outside (within.trans (Path.parent_within path))
    obtain ⟨others, still, _, all⟩ := effect.relisted consistent movable above outsideParent
    refine ⟨others, still, (all path.name).mpr (.inr ⟨inside, ?_⟩)⟩
    rw [Path.child_parent_name nonroot]
    intro same
    rw [same] at outside
    exact outside (List.prefix_refl source)

theorem consistent (effect : Renamed before source target after) (consistent : before.Consistent)
    (movable : Movable before source target) (normal : target.Normal) : after.Consistent := by
  refine ⟨?_, ?_, ?_, ?_, ?_, ?_⟩
  · have outside : ¬ source <+: Path.root := fun within => movable.nonroot (List.prefix_nil.mp within)
    exact effect.isDirectory consistent movable consistent.root outside
  · intro path member
    rcases effect.mem_cases consistent movable member with ⟨rest, rfl, old⟩ | ⟨old, _, _⟩
    · exact Path.normal_append.mpr ⟨normal, (Path.normal_append.mp (consistent.normal old)).2⟩
    · exact consistent.normal old
  · intro path names found name member
    by_cases within : target <+: path
    · obtain ⟨rest, rfl⟩ := within
      exact consistent.segments (effect.moved_listing found) name member
    · obtain ⟨_, old, held, all⟩ := effect.listing consistent movable found within
      rcases all name member with new | ⟨listed, _⟩
      · rw [← new] at normal
        exact (Path.normal_child.mp normal).2
      · exact consistent.segments held name listed
  · intro path names found
    by_cases within : target <+: path
    · obtain ⟨rest, rfl⟩ := within
      exact consistent.distinct (effect.moved_listing found)
    · exact (effect.listing consistent movable found within).1
  · intro path names found name member
    exact effect.present consistent movable found member
  · intro path member nonroot
    exact effect.listed consistent movable member nonroot

end Renamed

theorem rename_consistent {vfs after : Vfs} (consistent : vfs.Consistent) {sourceText targetText : String}
    (done : vfs.rename sourceText targetText = (.ok (), after)) : after.Consistent := by
  rcases renamed_of_rename consistent done with ⟨_, rfl⟩ | ⟨movable, effect⟩
  · exact consistent
  · exact effect.consistent consistent movable (Path.normal_ofText targetText)

end LessonShell.Vfs

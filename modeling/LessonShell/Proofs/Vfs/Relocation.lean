import LessonShell.Proofs.Vfs.Growth
import LessonShell.Vfs.Rename
import Mathlib.Data.List.Nodup

/-! What moving a node does. The nodes at and under the source are found at the same
place under the target, the two child lists involved lose and gain one name, and nothing
else changes. -/
namespace LessonShell

namespace Path

theorem relocated_append (source target rest : Path) :
    relocated source target (source ++ rest) = target ++ rest := by
  rw [relocated, if_pos (isWithin_iff.mpr (List.prefix_append source rest)), List.drop_left]

theorem relocated_outside {source target path : Path} (outside : ¬ source <+: path) :
    relocated source target path = path := by
  rw [relocated, if_neg (fun within => outside (isWithin_iff.mp within))]

theorem not_prefix_parent {path : Path} (nonroot : path ≠ root) : ¬ path <+: path.parent := by
  intro within
  have shorter := within.length_le
  have positive := List.length_pos_iff.mpr nonroot
  simp only [parent, List.length_dropLast] at shorter
  omega

theorem prefix_child_iff {top path : Path} {name : String} :
    top <+: path.child name ↔ top <+: path ∨ top = path.child name := by
  rw [child, List.prefix_concat_iff, or_comm]

end Path

namespace Vfs

/-- The source is a node other than the root, and the target is free, outside of the
source and in an existing directory. -/
structure Movable (vfs : Vfs) (source target : Path) : Prop where
  nonroot : source ≠ Path.root
  present : source ∈ vfs.nodes
  free : target ∉ vfs.nodes
  outside : ¬ source <+: target
  directory : vfs.IsDirectory target.parent

/-- The effect of a move: the nodes at and under `source` went to `target`, and only the
lists of the two directories changed. Within one directory the name is replaced where it
stood; between two it leaves the first list and ends the second. -/
structure Renamed (before : Vfs) (source target : Path) (after : Vfs) : Prop where
  moved : ∀ rest, after.nodes[target ++ rest]? = before.nodes[source ++ rest]?
  cleared : ∀ path, source <+: path → path ∉ after.nodes
  kept : ∀ path, ¬ source <+: path → ¬ target <+: path →
    path ≠ source.parent → path ≠ target.parent → after.nodes[path]? = before.nodes[path]?
  replaced : source.parent = target.parent → ∃ left right,
    before.nodes[source.parent]? = some (.dir (left ++ source.name :: right)) ∧
      after.nodes[source.parent]? = some (.dir (left ++ target.name :: right))
  removed : source.parent ≠ target.parent → ∃ left right,
    before.nodes[source.parent]? = some (.dir (left ++ source.name :: right)) ∧
      after.nodes[source.parent]? = some (.dir (left ++ right))
  appended : source.parent ≠ target.parent → ∃ names,
    before.nodes[target.parent]? = some (.dir names) ∧
      after.nodes[target.parent]? = some (.dir (names ++ [target.name]))

namespace Movable
variable {vfs : Vfs} {source target : Path}

theorem target_nonroot (movable : Movable vfs source target) (consistent : vfs.Consistent) :
    target ≠ Path.root :=
  fun top => movable.free (top ▸ consistent.root.mem)

theorem nothing_under_target (movable : Movable vfs source target) (consistent : vfs.Consistent)
    (rest : List String) : target ++ rest ∉ vfs.nodes :=
  fun member => movable.free (consistent.mem_of_append member)

theorem not_under_target (movable : Movable vfs source target) (consistent : vfs.Consistent)
    {path : Path} (member : path ∈ vfs.nodes) : ¬ target <+: path :=
  fun within => movable.free (consistent.mem_of_within within member)

theorem source_parent_outside (movable : Movable vfs source target) : ¬ source <+: source.parent :=
  Path.not_prefix_parent movable.nonroot

theorem target_parent_outside (movable : Movable vfs source target) : ¬ source <+: target.parent :=
  fun within => movable.outside (within.trans (Path.parent_within target))

theorem source_parent_mem (movable : Movable vfs source target) (consistent : vfs.Consistent) :
    source.parent ∈ vfs.nodes :=
  (consistent.parent_isDirectory movable.present movable.nonroot).mem

end Movable

section relocate
variable {vfs : Vfs} {source target : Path}

theorem relocated_injective (consistent : vfs.Consistent) (movable : Movable vfs source target)
    {first second : Path} (left : first ∈ vfs.nodes) (right : second ∈ vfs.nodes)
    (same : Path.relocated source target first = Path.relocated source target second) :
    first = second := by
  by_cases inFirst : source <+: first <;> by_cases inSecond : source <+: second
  · obtain ⟨rest, rfl⟩ := inFirst
    obtain ⟨other, rfl⟩ := inSecond
    rw [Path.relocated_append, Path.relocated_append] at same
    rw [List.append_cancel_left same]
  · obtain ⟨rest, rfl⟩ := inFirst
    rw [Path.relocated_append, Path.relocated_outside inSecond] at same
    exact absurd (same ▸ right) (movable.nothing_under_target consistent rest)
  · obtain ⟨rest, rfl⟩ := inSecond
    rw [Path.relocated_append, Path.relocated_outside inFirst] at same
    exact absurd (same ▸ left) (movable.nothing_under_target consistent rest)
  · rwa [Path.relocated_outside inFirst, Path.relocated_outside inSecond] at same

theorem relocate_eq_some_iff (consistent : vfs.Consistent) (movable : Movable vfs source target)
    {path : Path} {node : Node} : (vfs.relocate source target).nodes[path]? = some node ↔
      ∃ old, vfs.nodes[old]? = some node ∧ Path.relocated source target old = path := by
  have distinct : ((vfs.entries.map fun entry => (Path.relocated source target entry.1, entry.2)).map
      Prod.fst).Nodup := by
    rw [List.map_map, List.Nodup, List.pairwise_map]
    refine List.Pairwise.imp_of_mem ?_ Std.ExtTreeMap.distinct_keys_toList
    intro first second left right differ same
    have one := mem_nodes_iff.mpr ⟨first.2, mem_entries_iff.mp left⟩
    have two := mem_nodes_iff.mpr ⟨second.2, mem_entries_iff.mp right⟩
    rw [Path.order_eq_iff] at differ
    exact differ (relocated_injective consistent movable one two same)
  refine (Table.getElem?_ofList_iff distinct).trans ?_
  simp only [List.mem_map, Prod.mk.injEq, Prod.exists, mem_entries_iff]
  constructor
  · rintro ⟨old, held, found, same, rfl⟩
    exact ⟨old, found, same⟩
  · rintro ⟨old, found, same⟩
    exact ⟨old, node, found, same, rfl⟩

theorem relocate_moved (consistent : vfs.Consistent) (movable : Movable vfs source target)
    (rest : List String) :
    (vfs.relocate source target).nodes[target ++ rest]? = vfs.nodes[source ++ rest]? := by
  apply Option.ext
  intro node
  rw [relocate_eq_some_iff consistent movable]
  constructor
  · rintro ⟨old, found, same⟩
    by_cases within : source <+: old
    · obtain ⟨other, rfl⟩ := within
      rw [Path.relocated_append] at same
      rwa [← List.append_cancel_left same]
    · rw [Path.relocated_outside within] at same
      have existing : old ∈ vfs.nodes := mem_nodes_iff.mpr ⟨node, found⟩
      exact absurd (same ▸ existing) (movable.nothing_under_target consistent rest)
  · intro found
    exact ⟨_, found, Path.relocated_append source target rest⟩

theorem relocate_kept (consistent : vfs.Consistent) (movable : Movable vfs source target)
    {path : Path} (outside : ¬ source <+: path) (apart : ¬ target <+: path) :
    (vfs.relocate source target).nodes[path]? = vfs.nodes[path]? := by
  apply Option.ext
  intro node
  rw [relocate_eq_some_iff consistent movable]
  constructor
  · rintro ⟨old, found, same⟩
    by_cases within : source <+: old
    · obtain ⟨other, rfl⟩ := within
      rw [Path.relocated_append] at same
      exact absurd ⟨other, same⟩ apart
    · rw [Path.relocated_outside within] at same
      exact same ▸ found
  · intro found
    exact ⟨path, found, Path.relocated_outside outside⟩

theorem relocate_cleared (consistent : vfs.Consistent) (movable : Movable vfs source target)
    {path : Path} (within : source <+: path) : path ∉ (vfs.relocate source target).nodes := by
  intro member
  obtain ⟨node, found⟩ := mem_nodes_iff.mp member
  obtain ⟨old, held, same⟩ := (relocate_eq_some_iff consistent movable).mp found
  by_cases inside : source <+: old
  · obtain ⟨rest, rfl⟩ := inside
    rw [Path.relocated_append] at same
    -- Both ends begin one path, so one of them begins the other.
    rcases List.prefix_or_prefix_of_prefix within ⟨rest, same⟩ with below | above
    · exact movable.outside below
    · exact movable.not_under_target consistent movable.present above
  · rw [Path.relocated_outside inside] at same
    exact inside (same ▸ within)

end relocate

section rename
variable {vfs after : Vfs} {source target : Path}

theorem Movable.listing (consistent : vfs.Consistent) (movable : Movable vfs source target) :
    ∃ left right, vfs.nodes[source.parent]? = some (.dir (left ++ source.name :: right)) ∧
      source.name ∉ left ++ right := by
  obtain ⟨names, above, inside⟩ := consistent.listed movable.present movable.nonroot
  obtain ⟨left, right, rfl⟩ := List.append_of_mem inside
  have distinct := consistent.distinct above
  rw [List.nodup_middle, List.nodup_cons] at distinct
  exact ⟨left, right, above, distinct.1⟩

private theorem replace_middle {left right : List String} {old : String} (absent : old ∉ left ++ right)
    (new : String) : (left ++ old :: right).replace old new = left ++ new :: right := by
  have before : old ∉ left := fun member => absent (List.mem_append_left right member)
  rw [List.replace_append_right before, List.replace_cons_self]

private theorem filter_middle {left right : List String} {old : String} (absent : old ∉ left ++ right) :
    (left ++ old :: right).filter (· ≠ old) = left ++ right := by
  have others : ∀ name ∈ left ++ right, decide (name ≠ old) = true := by
    intro name member
    have differs : name ≠ old := fun same => absent (same ▸ member)
    simpa using differs
  rw [List.filter_append, List.filter_cons_of_neg (by simp), ← List.filter_append]
  exact List.filter_eq_self.mpr others

/-- The edits of the lists keep what the relocation did: no list is under the source, and
none is under the target before the nodes arrive. -/
private theorem renamed_elsewhere (consistent : vfs.Consistent) (movable : Movable vfs source target)
    (elsewhere : ∀ path, path ≠ source.parent → path ≠ target.parent →
      after.nodes[path]? = (vfs.relocate source target).nodes[path]?) :
    (∀ rest, after.nodes[target ++ rest]? = vfs.nodes[source ++ rest]?) ∧
      (∀ path, source <+: path → path ∉ after.nodes) ∧
      ∀ path, ¬ source <+: path → ¬ target <+: path → path ≠ source.parent → path ≠ target.parent →
        after.nodes[path]? = vfs.nodes[path]? := by
  have apart := movable.not_under_target consistent (movable.source_parent_mem consistent)
  have targetApart := movable.not_under_target consistent movable.directory.mem
  refine ⟨fun rest => ?_, fun path within member => ?_, fun path outside free first second => ?_⟩
  · have arrived : target <+: target ++ rest := List.prefix_append target rest
    rw [elsewhere _ (fun same => apart (same ▸ arrived)) (fun same => targetApart (same ▸ arrived))]
    exact relocate_moved consistent movable rest
  · have first : path ≠ source.parent := fun same => movable.source_parent_outside (same ▸ within)
    have second : path ≠ target.parent := fun same => movable.target_parent_outside (same ▸ within)
    rw [mem_nodes_iff, elsewhere path first second, ← mem_nodes_iff] at member
    exact relocate_cleared consistent movable within member
  · rw [elsewhere path first second]
    exact relocate_kept consistent movable outside free

private theorem relist_within (consistent : vfs.Consistent) (movable : Movable vfs source target)
    (sameParent : source.parent = target.parent) :
    ∃ after, (vfs.relocate source target).relist source target = (.ok (), after) ∧
      Renamed vfs source target after := by
  obtain ⟨left, right, above, absent⟩ := movable.listing consistent
  have apart := movable.not_under_target consistent movable.directory.mem
  have kept := relocate_kept consistent movable movable.target_parent_outside apart
  have edited : (vfs.relocate source target).editSiblings target (·.replace source.name target.name) =
      (.ok (), _) :=
    editSiblings_eq_ok_iff.mpr ⟨_, kept.trans (sameParent ▸ above), rfl⟩
  refine ⟨_, by rw [relist, if_pos sameParent]; exact edited, ?_⟩
  obtain ⟨moved, cleared, same⟩ := renamed_elsewhere consistent movable fun path _ second => by
    rw [getElem?_insert, if_neg (Ne.symm second)]
  refine ⟨moved, cleared, same, fun _ => ⟨left, right, above, ?_⟩, fun differ => absurd sameParent differ,
    fun differ => absurd sameParent differ⟩
  rw [sameParent, getElem?_insert, if_pos rfl, replace_middle absent]

private theorem relist_between (consistent : vfs.Consistent) (movable : Movable vfs source target)
    (differ : source.parent ≠ target.parent) :
    ∃ after, (vfs.relocate source target).relist source target = (.ok (), after) ∧
      Renamed vfs source target after := by
  obtain ⟨left, right, above, absent⟩ := movable.listing consistent
  obtain ⟨names, directory⟩ := movable.directory
  have apart := movable.not_under_target consistent (movable.source_parent_mem consistent)
  have kept := relocate_kept consistent movable movable.source_parent_outside apart
  have targetApart := movable.not_under_target consistent movable.directory.mem
  have targetKept := relocate_kept consistent movable movable.target_parent_outside targetApart
  let shorter := (vfs.relocate source target).nodes.insert source.parent (.dir (left ++ right))
  have shrunk : (vfs.relocate source target).editSiblings source (·.filter (· ≠ source.name)) =
      (.ok (), ⟨shorter⟩) :=
    editSiblings_eq_ok_iff.mpr ⟨_, kept.trans above, by rw [filter_middle absent]⟩
  have still : shorter[target.parent]? = some (.dir names) := by
    rw [getElem?_insert, if_neg differ]
    exact targetKept.trans directory
  have grown : Vfs.editSiblings ⟨shorter⟩ target (· ++ [target.name]) = (.ok (), _) :=
    editSiblings_eq_ok_iff.mpr ⟨names, still, rfl⟩
  refine ⟨_, by rw [relist, if_neg differ, shrunk]; exact grown, ?_⟩
  obtain ⟨moved, cleared, same⟩ := renamed_elsewhere consistent movable fun path first second => by
    rw [getElem?_insert, if_neg (Ne.symm second), getElem?_insert, if_neg (Ne.symm first)]
  refine ⟨moved, cleared, same, fun equal => absurd equal differ, fun _ => ⟨left, right, above, ?_⟩,
    fun _ => ⟨names, directory, ?_⟩⟩
  · rw [getElem?_insert, if_neg (Ne.symm differ), getElem?_insert, if_pos rfl]
  · rw [getElem?_insert, if_pos rfl]

theorem relist_relocate (consistent : vfs.Consistent) (movable : Movable vfs source target) :
    ∃ after, (vfs.relocate source target).relist source target = (.ok (), after) ∧
      Renamed vfs source target after := by
  by_cases sameParent : source.parent = target.parent
  · exact relist_within consistent movable sameParent
  · exact relist_between consistent movable sameParent

/-- A move is refused by a check, or it ends where it starts, or it passes all checks and goes on
to the nodes and then to the lists. -/
theorem rename_cases (vfs : Vfs) (sourceText targetText : String) :
    let source := Path.ofText sourceText
    let target := Path.ofText targetText
    (∃ fault, vfs.rename sourceText targetText = (.error fault, vfs)) ∧
        ¬ (source ≠ Path.root ∧ source ∈ vfs.nodes ∧ (source = target ∨ Movable vfs source target)) ∨
      (source ≠ Path.root ∧ source ∈ vfs.nodes ∧ source = target) ∧
        vfs.rename sourceText targetText = (.ok (), vfs) ∨
      Movable vfs source target ∧
        vfs.rename sourceText targetText = (vfs.relocate source target).relist source target := by
  simp only [rename]
  generalize Path.ofText sourceText = source
  generalize Path.ofText targetText = target
  by_cases top : source = Path.root
  · exact .inl ⟨⟨_, if_pos top⟩, fun possible => possible.1 top⟩
  rw [if_neg top]
  by_cases missing : source ∉ vfs.nodes
  · exact .inl ⟨⟨_, if_pos missing⟩, fun possible => missing possible.2.1⟩
  rw [if_neg missing]
  have present := not_not.mp missing
  by_cases same : source = target
  · exact .inr (.inl ⟨⟨top, present, same⟩, if_pos same⟩)
  rw [if_neg same]
  -- Each further check fails only where the move is not one that can be made.
  have refused (immovable : ¬ Movable vfs source target) :
      ¬ (source ≠ Path.root ∧ source ∈ vfs.nodes ∧ (source = target ∨ Movable vfs source target)) :=
    fun possible => possible.2.2.elim same immovable
  by_cases taken : target ∈ vfs.nodes
  · exact .inl ⟨⟨_, if_pos taken⟩, refused fun movable => movable.free taken⟩
  rw [if_neg taken]
  by_cases inside : target.isWithin source = true
  · exact .inl ⟨⟨_, if_pos inside⟩, refused fun movable => movable.outside (Path.isWithin_iff.mp inside)⟩
  rw [if_neg inside]
  cases above : vfs.siblings target with
  | error fault =>
    refine .inl ⟨⟨fault, rfl⟩, refused fun movable => ?_⟩
    obtain ⟨names, directory⟩ := movable.directory
    cases above.symm.trans (siblings_eq_ok_iff.mpr directory)
  | ok names =>
    have outside : ¬ source <+: target := fun within => inside (Path.isWithin_iff.mpr within)
    exact .inr (.inr ⟨⟨top, present, taken, outside, names, siblings_eq_ok_iff.mp above⟩, rfl⟩)

/-- A node can be moved exactly when nothing stands in the way, or when it stays. -/
theorem rename_eq_ok_iff (consistent : vfs.Consistent) {sourceText targetText : String} :
    (∃ after, vfs.rename sourceText targetText = (.ok (), after)) ↔
      Path.ofText sourceText ≠ Path.root ∧ Path.ofText sourceText ∈ vfs.nodes ∧
        (Path.ofText sourceText = Path.ofText targetText ∨
          Movable vfs (Path.ofText sourceText) (Path.ofText targetText)) := by
  rcases vfs.rename_cases sourceText targetText with
    ⟨⟨fault, refused⟩, impossible⟩ | ⟨⟨nonroot, present, same⟩, stays⟩ | ⟨movable, moves⟩
  · refine iff_of_false ?_ impossible
    rintro ⟨after, done⟩
    cases refused.symm.trans done
  · exact iff_of_true ⟨vfs, stays⟩ ⟨nonroot, present, .inl same⟩
  · obtain ⟨after, done, _⟩ := relist_relocate consistent movable
    exact iff_of_true ⟨after, moves.trans done⟩ ⟨movable.nonroot, movable.present, .inr movable⟩

/-- A refused move has changed nothing: once the nodes have moved, both lists are found. -/
theorem rename_refused (consistent : vfs.Consistent) {sourceText targetText : String} {fault : Fault}
    (refused : vfs.rename sourceText targetText = (.error fault, after)) : after = vfs := by
  rcases vfs.rename_cases sourceText targetText with ⟨⟨_, checked⟩, _⟩ | ⟨_, stays⟩ | ⟨movable, moves⟩
  · exact (Prod.mk.inj (refused.symm.trans checked)).2
  · cases refused.symm.trans stays
  · obtain ⟨_, done, _⟩ := relist_relocate consistent movable
    cases refused.symm.trans (moves.trans done)

/-- A move to the same path changes nothing, and any other has the effect of a move. -/
theorem renamed_of_rename (consistent : vfs.Consistent) {sourceText targetText : String}
    (done : vfs.rename sourceText targetText = (.ok (), after)) :
    Path.ofText sourceText = Path.ofText targetText ∧ after = vfs ∨
      Movable vfs (Path.ofText sourceText) (Path.ofText targetText) ∧
        Renamed vfs (Path.ofText sourceText) (Path.ofText targetText) after := by
  rcases vfs.rename_cases sourceText targetText with
    ⟨⟨fault, refused⟩, _⟩ | ⟨⟨_, _, same⟩, stays⟩ | ⟨movable, moves⟩
  · cases done.symm.trans refused
  · exact .inl ⟨same, (Prod.mk.inj (done.symm.trans stays)).2⟩
  · obtain ⟨moved, result, effect⟩ := relist_relocate consistent movable
    obtain rfl : after = moved := (Prod.mk.inj (done.symm.trans (moves.trans result))).2
    exact .inr ⟨movable, effect⟩

end rename

end Vfs
end LessonShell

import LessonShell.Proofs.Vfs.Renaming

/-! What a change keeps of the files. Only a move takes a file away from its path, and then the
file is under the target; only writing to a file changes its content; and without a move a list
of children only grows at its end. -/
namespace LessonShell.Vfs

/-- Every file is where it was, with the same content unless its path is among the `rewritten`
ones, and every list of children begins as before. -/
structure Retained (rewritten : List Path) (before after : Vfs) : Prop where
  files : ∀ (path : Path) content, before.nodes[path]? = some (.file content) →
    ∃ now, after.nodes[path]? = some (.file now) ∧ (path ∉ rewritten → now = content)
  lists : ∀ (path : Path) names, before.nodes[path]? = some (.dir names) →
    ∃ grown, after.nodes[path]? = some (.dir grown) ∧ names <+: grown

/-- The files at and under `source` are at the same place under `target`, and every other file is
where it was. -/
structure Carried (before : Vfs) (source target : Path) (after : Vfs) : Prop where
  inside : ∀ rest content, before.nodes[source ++ rest]? = some (.file content) →
    after.nodes[target ++ rest]? = some (.file content)
  outside : ∀ (path : Path) content, ¬ source <+: path → before.nodes[path]? = some (.file content) →
    after.nodes[path]? = some (.file content)

namespace Retained
variable {before middle after : Vfs} {early late : List Path}

theorem refl (vfs : Vfs) : Retained [] vfs vfs where
  files _ content found := ⟨content, found, fun _ => rfl⟩
  lists _ names found := ⟨names, found, List.prefix_refl names⟩

theorem trans (first : Retained early before middle) (second : Retained late middle after) :
    Retained (early ++ late) before after where
  files path content found := by
    obtain ⟨halfway, still, kept⟩ := first.files path content found
    obtain ⟨now, last, same⟩ := second.files path halfway still
    refine ⟨now, last, fun spared => ?_⟩
    rw [List.mem_append, not_or] at spared
    exact (same spared.2).trans (kept spared.1)
  lists path names found := by
    obtain ⟨halfway, still, begins⟩ := first.lists path names found
    obtain ⟨grown, last, continues⟩ := second.lists path halfway still
    exact ⟨grown, last, begins.trans continues⟩

theorem weaken (retained : Retained early before after) (sub : early ⊆ late) :
    Retained late before after where
  files path content found := by
    obtain ⟨now, still, same⟩ := retained.files path content found
    exact ⟨now, still, fun spared => same fun member => spared (sub member)⟩
  lists := retained.lists

end Retained

section growth
variable {before after : Vfs} {path : Path}

theorem Added.retained {node : Node} (change : Added before path node after) : Retained [] before after where
  files other content found := by
    obtain ⟨names, above, lookup⟩ := change.lookup
    have old : other ≠ path := by
      rintro rfl
      exact change.absent (mem_nodes_iff.mpr ⟨_, found⟩)
    have leaf : other ≠ path.parent := by
      rintro rfl
      rw [above] at found
      cases found
    refine ⟨content, ?_, fun _ => rfl⟩
    rw [lookup, if_neg old, if_neg leaf]
    exact found
  lists _ _ found := change.relisted found

theorem Created.retained {node : Node} (created : Created before path node after) :
    Retained [] before after := by
  rcases created with rfl | change
  · exact .refl _
  · exact change.retained

theorem Overwritten.retained {content : String} (change : Overwritten before path content after) :
    Retained [path] before after where
  files other old found := by
    rw [change.lookup]
    by_cases here : other = path
    · refine ⟨content, if_pos here, fun spared => ?_⟩
      exact absurd (List.mem_singleton.mpr here) spared
    · exact ⟨old, (if_neg here).trans found, fun _ => rfl⟩
  lists _ names found := ⟨names, change.listing_iff.mpr found, List.prefix_refl names⟩

theorem Growth.retained (growth : Growth before path after) : Retained [path] before after := by
  cases growth with
  | same => exact (Retained.refl before).weaken (List.nil_subset _)
  | overwritten change => exact change.retained
  | added change => exact change.retained.weaken (List.nil_subset _)

end growth

/-- An installation rewrites nothing but the two key files, whether or not it succeeds. -/
theorem install_retained {vfs : Vfs} (consistent : vfs.Consistent) (home name algorithm comment : String) :
    Retained [Path.ofText (PathText.join (KeyPair.directory home) name),
        Path.ofText (PathText.join (KeyPair.directory home) name ++ ".pub")]
      vfs (KeyPair.install vfs home name algorithm comment).2 := by
  obtain ⟨prepared, half, first, second, third⟩ := install_growth consistent home name algorithm comment
  exact first.retained.trans (second.retained.trans third.retained)

theorem Renamed.carried {before after : Vfs} {source target : Path}
    (effect : Renamed before source target after) (consistent : before.Consistent)
    (movable : Movable before source target) : Carried before source target after where
  inside rest _ found := (effect.moved rest).trans found
  outside path content outside found := by
    have apart := movable.not_under_target consistent (mem_nodes_iff.mpr ⟨_, found⟩)
    have leaf {other : Path} (directory : before.IsDirectory other) : path ≠ other := by
      rintro rfl
      obtain ⟨names, listed⟩ := directory
      rw [listed] at found
      cases found
    have above := consistent.parent_isDirectory movable.present movable.nonroot
    exact (effect.kept path outside apart (leaf above) (leaf movable.directory)).trans found

theorem rename_carried {vfs after : Vfs} (consistent : vfs.Consistent) {sourceText targetText : String}
    (done : vfs.rename sourceText targetText = (.ok (), after)) :
    Carried vfs (Path.ofText sourceText) (Path.ofText targetText) after := by
  rcases renamed_of_rename consistent done with ⟨same, rfl⟩ | ⟨movable, effect⟩
  · rw [same]
    exact ⟨fun _ _ found => found, fun _ _ _ found => found⟩
  · exact effect.carried consistent movable

end LessonShell.Vfs

import LessonShell.Proofs.Spelling
import LessonShell.Proofs.Vfs.Requests

/-! Moving back. A move leaves nothing at its source and keeps the directory above, so the way back
is open. On it every node returns, and so does every list but one: a name that has left its
directory comes back as the last one there. -/
namespace LessonShell.Vfs

section lists
variable {names left right : List String} {name : String}

private theorem erase_middle (fresh : name ∉ left) : (left ++ name :: right).erase name = left ++ right := by
  rw [List.erase_append_right _ fresh, List.erase_cons_head]

private theorem erase_last (fresh : name ∉ names) : (names ++ [name]).erase name = names := by
  rw [erase_middle fresh, List.append_nil]

private theorem unlisted_around (distinct : (left ++ name :: right).Nodup) : name ∉ left ++ right := by
  rw [List.nodup_middle, List.nodup_cons] at distinct
  exact distinct.1

end lists

namespace Renamed
variable {before after back : Vfs} {source target : Path}

/-- What a move leaves can be moved back. -/
theorem movable_back (effect : Renamed before source target after) (consistent : before.Consistent)
    (movable : Movable before source target) : Movable after target source where
  nonroot := movable.target_nonroot consistent
  present := effect.target_mem movable
  free := effect.cleared source (List.prefix_refl source)
  outside := movable.not_under_target consistent movable.present
  directory := effect.isDirectory consistent movable
    (consistent.parent_isDirectory movable.present movable.nonroot) movable.source_parent_outside

theorem back_elsewhere (effect : Renamed before source target after)
    (returned : Renamed after target source back) (consistent : before.Consistent)
    (movable : Movable before source target) {path : Path} (first : path ≠ source.parent)
    (second : path ≠ target.parent) : back.nodes[path]? = before.nodes[path]? := by
  by_cases atSource : source <+: path
  · obtain ⟨rest, rfl⟩ := atSource
    exact (returned.moved rest).trans (effect.moved rest)
  by_cases atTarget : target <+: path
  · have gone := not_mem_nodes_iff.mp (returned.cleared path atTarget)
    have never : path ∉ before.nodes := fun member => movable.not_under_target consistent member atTarget
    rw [gone, not_mem_nodes_iff.mp never]
  · have there := effect.kept path atSource atTarget first second
    exact (returned.kept path atTarget atSource second first).trans there

/-- Within one directory the name takes its old place again. -/
theorem back_within (effect : Renamed before source target after)
    (returned : Renamed after target source back) (consistent : before.Consistent)
    (later : after.Consistent) (movable : Movable before source target)
    (same : source.parent = target.parent) : back = before := by
  refine ext_getElem? fun path => ?_
  by_cases here : path = source.parent
  · obtain ⟨left, right, old, new⟩ := effect.replaced same
    obtain ⟨front, rest, held, final⟩ := returned.replaced same.symm
    rw [← same] at held final
    have aligned : left ++ target.name :: right = front ++ target.name :: rest := listing_unique new held
    have distinct := unlisted_around (later.distinct new)
    rw [List.mem_append, not_or] at distinct
    obtain ⟨rfl, -, rfl⟩ := (List.append_cons_inj_of_notMem distinct.1 distinct.2).mp aligned
    rw [here, final, old]
  · exact effect.back_elsewhere returned consistent movable here fun above => here (above.trans same.symm)

/-- The directory of the target has lost again what it had gained. -/
theorem back_target_parent (effect : Renamed before source target after)
    (returned : Renamed after target source back) (later : after.Consistent)
    (differ : source.parent ≠ target.parent) :
    back.nodes[target.parent]? = before.nodes[target.parent]? := by
  obtain ⟨names, old, new⟩ := effect.appended differ
  obtain ⟨left, right, held, final⟩ := returned.removed differ.symm
  have aligned : names ++ [target.name] = left ++ target.name :: right := listing_unique new held
  have distinct := unlisted_around (later.distinct held)
  have fresh := unlisted_around (later.distinct new)
  rw [List.append_nil] at fresh
  rw [List.mem_append, not_or] at distinct
  have restored : names = left ++ right := by
    rw [← erase_last fresh, aligned, erase_middle distinct.1]
  rw [final, old, restored]

/-- Between two directories the name comes back behind all others. -/
theorem back_between (effect : Renamed before source target after)
    (returned : Renamed after target source back) (consistent : before.Consistent)
    (later : after.Consistent) (movable : Movable before source target)
    (differ : source.parent ≠ target.parent) :
    ∃ names, before.nodes[source.parent]? = some (.dir names) ∧ source.name ∈ names ∧
      back = ⟨before.nodes.insert source.parent (.dir (names.erase source.name ++ [source.name]))⟩ := by
  obtain ⟨left, right, old, new⟩ := effect.removed differ
  obtain ⟨others, held, final⟩ := returned.appended differ.symm
  have distinct := unlisted_around (consistent.distinct old)
  rw [List.mem_append, not_or] at distinct
  refine ⟨left ++ source.name :: right, old, by simp, ext_getElem? fun path => ?_⟩
  rw [getElem?_insert, erase_middle distinct.1]
  split
  · next here => rw [← here, final, listing_unique held new]
  · next elsewhere =>
    by_cases there : path = target.parent
    · rw [there]
      exact effect.back_target_parent returned later differ
    · exact effect.back_elsewhere returned consistent movable (Ne.symm elsewhere) there

end Renamed

/-- A move to another place can always be taken back. Within one directory this restores the files;
between two it restores them except that the name now stands last in its directory. -/
theorem rename_back {vfs after : Vfs} (audited : vfs.breach? = none) {sourceText targetText : String}
    (differ : PathText.normalize sourceText ≠ PathText.normalize targetText)
    (moved : vfs.rename sourceText targetText = (.ok (), after)) :
    let source := Path.ofText sourceText
    let target := Path.ofText targetText
    ∃ back, after.rename targetText sourceText = (.ok (), back) ∧
      (source.parent = target.parent → back = vfs) ∧
      (source.parent ≠ target.parent → ∃ names, vfs.nodes[source.parent]? = some (.dir names) ∧
        source.name ∈ names ∧
        back = ⟨vfs.nodes.insert source.parent (.dir (names.erase source.name ++ [source.name]))⟩) := by
  intro source target
  have consistent := breach?_eq_none_iff.mp audited
  have later := rename_consistent consistent moved
  have apart : source ≠ target := fun same => differ (PathText.normalize_eq_iff.mpr same)
  rcases renamed_of_rename consistent moved with ⟨same, _⟩ | ⟨movable, effect⟩
  · exact absurd same apart
  have reverse : Movable after target source := effect.movable_back consistent movable
  have possible : ∃ back, after.rename targetText sourceText = (.ok (), back) :=
    (rename_eq_ok_iff later).mpr ⟨reverse.nonroot, reverse.present, .inr reverse⟩
  obtain ⟨back, done⟩ := possible
  rcases renamed_of_rename later done with ⟨same, _⟩ | ⟨_, returned⟩
  · exact absurd same.symm apart
  exact ⟨back, done, effect.back_within returned consistent later movable,
    effect.back_between returned consistent later movable⟩

theorem rename_back_from_below :
    let vfs := FileRequest.performAll empty
      [.mkdir "/a", .mkdir "/a/b", .mkdir "/a/b/x", .write "/a/b/x/f" "text", .touch "/a/b/g"]
    ∃ after, vfs.rename "/a//b/x" "y/" = (.ok (), after) ∧ ∃ back, after.rename "y/" "/a//b/x" = (.ok (), back) ∧
      vfs.children "/a/b" = .ok ["x", "g"] ∧ back.children "/a/b" = .ok ["g", "x"] := by
  intro vfs
  have audited : vfs.breach? = none := by decide +kernel
  have differ : PathText.normalize "/a//b/x" ≠ PathText.normalize "y/" := by decide +kernel
  have listed : vfs.children "/a/b" = .ok ["x", "g"] := by decide +kernel
  have above : Path.ofText "/a/b" = (Path.ofText "/a//b/x").parent := by decide +kernel
  have name : (Path.ofText "/a//b/x").name = "x" := by decide +kernel
  have possible : (vfs.rename "/a//b/x" "y/").1.toOption.isSome = true := by decide +kernel
  rcases moved : vfs.rename "/a//b/x" "y/" with ⟨fault | ⟨⟩, after⟩
  · rw [moved] at possible
    cases possible
  · obtain ⟨back, done, _, restored⟩ := rename_back audited differ moved
    obtain ⟨names, found, _, rfl⟩ := restored (by decide +kernel)
    refine ⟨after, rfl, _, done, listed, ?_⟩
    rw [children_eq_ok_iff, above] at listed ⊢
    rw [getElem?_insert, if_pos rfl, listing_unique found listed, name]
    rfl

end LessonShell.Vfs

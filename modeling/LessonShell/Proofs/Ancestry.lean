import LessonShell.Proofs.Spelling

/-! The directory above a path and the name of the path in it. Both are read off at the last slash of the
text, where joining put it; so every text in normal form but the root is joined in one way only, and
taking it apart gives back what was joined. -/
namespace LessonShell.PathText
open LessonShell.Path

/-- A directory in normal form and a name that a path can have in it. -/
structure Joinable (dir name : String) : Prop where
  normal : isNormal dir.toList = true
  segment : IsSegment name

theorem fileName_append (before : String) {after : String} (last : '/' ∉ after.toList) :
    fileName (before ++ "/" ++ after) = after := by
  have whole : (before ++ "/" ++ after).toList = before.toList ++ '/' :: after.toList := by simp
  rw [fileName, whole, Text.afterLast_append before.toList last, String.ofList_toList]

theorem prefix_join (dir name : String) : dir.toList <+: (join dir name).toList := by
  unfold join
  split
  · next top => exact ⟨name.toList, by simp [top]⟩
  · exact ⟨'/' :: name.toList, by simp⟩

theorem length_lt_join (dir : String) {name : String} (filled : name ≠ "") :
    dir.length < (join dir name).length := by
  have positive : 0 < name.length := by
    rw [← String.length_toList, List.length_pos_iff]
    exact fun empty => filled (String.toList_eq_nil_iff.mp empty)
  unfold join
  split
  · next top =>
    rw [top, String.length_append]
    omega
  · rw [String.length_append, String.length_append]
    omega

theorem Joinable.fileName_join {dir name : String} (joinable : Joinable dir name) :
    fileName (join dir name) = name := by
  unfold join
  split
  · simpa using fileName_append "" joinable.segment.2
  · exact fileName_append dir joinable.segment.2

theorem Joinable.parent_join {dir name : String} (joinable : Joinable dir name) :
    parent (join dir name) = dir := by
  have filled : dir ≠ "" := by
    rintro rfl
    cases joinable.normal
  unfold join
  split
  · next top =>
    rw [top]
    simpa using parent_append "" joinable.segment.2
  · rw [parent_append dir joinable.segment.2, if_neg filled]

theorem Joinable.isNormal_join {dir name : String} (joinable : Joinable dir name) :
    isNormal (join dir name).toList = true := by
  rw [← text_ofText joinable.normal, join_text (normal_ofText dir)]
  exact isNormal_text (normal_child.mpr ⟨normal_ofText dir, joinable.segment⟩)

theorem Joinable.join_ne_root {dir name : String} (joinable : Joinable dir name) : join dir name ≠ "/" := by
  intro top
  have child := ofText_join_segment dir joinable.segment
  rw [top, ofText_root] at child
  exact child_ne_root (ofText dir) name child.symm

/-- What is in normal form is the root or was joined. -/
theorem exists_join {path : String} (normal : isNormal path.toList = true) (nonroot : path ≠ "/") :
    ∃ dir name, Joinable dir name ∧ join dir name = path := by
  have spelled := text_ofText normal
  have below : ofText path ≠ root := by
    intro top
    rw [top] at spelled
    exact nonroot spelled.symm
  have whole := child_parent_name below
  have parts : ((ofText path).parent.child (ofText path).name).Normal := whole.symm ▸ normal_ofText path
  obtain ⟨above, segment⟩ := normal_child.mp parts
  refine ⟨(ofText path).parent.text, (ofText path).name, ⟨isNormal_text above, segment⟩, ?_⟩
  rw [join_text above, whole, spelled]

/-- A text in normal form is the root, or the name after its last slash joined to the directory before it,
which is in normal form again and a proper beginning of the text. A name joined to a directory is in normal
form, is not the root and comes apart into the two, so no other directory and name are joined to the same
text. On the segments that the texts denote these are the parent, the name and the child of a path. -/
theorem last_slash_divides :
    (∀ path, isNormal path.toList = true → path ≠ "/" →
      Joinable (parent path) (fileName path) ∧ join (parent path) (fileName path) = path ∧
      (parent path).toList <+: path.toList ∧ (parent path).length < path.length ∧
      ofText (parent path) = (ofText path).parent ∧ fileName path = (ofText path).name) ∧
    (∀ dir name, Joinable dir name →
      isNormal (join dir name).toList = true ∧ join dir name ≠ "/" ∧
      parent (join dir name) = dir ∧ fileName (join dir name) = name ∧
      ofText (join dir name) = (ofText dir).child name) ∧
    ∀ dir name other next, Joinable dir name → Joinable other next →
      join dir name = join other next → dir = other ∧ name = next := by
  refine ⟨fun path normal nonroot => ?_, fun dir name joinable => ?_, ?_⟩
  · obtain ⟨dir, name, joinable, rfl⟩ := exists_join normal nonroot
    rw [joinable.parent_join, joinable.fileName_join, ofText_join_segment dir joinable.segment,
      parent_child, name_child]
    exact ⟨joinable, rfl, prefix_join dir name, length_lt_join dir joinable.segment.1, rfl, rfl⟩
  · exact ⟨joinable.isNormal_join, joinable.join_ne_root, joinable.parent_join, joinable.fileName_join,
      ofText_join_segment dir joinable.segment⟩
  · intro dir name other next first second same
    have dirs := congrArg parent same
    have names := congrArg fileName same
    rw [first.parent_join, second.parent_join] at dirs
    rw [first.fileName_join, second.fileName_join] at names
    exact ⟨dirs, names⟩

theorem last_slash_divides_unusual_names :
    (isNormal "/.. /é".toList = true ∧ "/.. /é" ≠ "/" ∧ Joinable "/.. " "é" ∧
      join (parent "/.. /é") (fileName "/.. /é") = "/.. /é") ∧
    (Joinable "/" ".." ∧ isNormal "/..".toList = true ∧ parent "/.." = "/" ∧ fileName "/.." = "..") := by
  obtain ⟨divides, joins, -⟩ := last_slash_divides
  have normal : isNormal "/.. /é".toList = true := by decide
  have nonroot : "/.. /é" ≠ "/" := by decide
  have up : Joinable "/" ".." := ⟨by decide, by decide⟩
  obtain ⟨parts, whole, -⟩ := divides "/.. /é" normal nonroot
  obtain ⟨joined, -, above, last, -⟩ := joins "/" ".." up
  exact ⟨⟨normal, nonroot, parts, whole⟩, up, joined, above, last⟩

end LessonShell.PathText

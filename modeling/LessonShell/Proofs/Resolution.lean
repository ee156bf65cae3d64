import LessonShell.Proofs.Spelling

/-! Following one spelled path after another. What a path leads to is spelled in normal form and without
directions, so it is found again from everywhere, and the next path goes on where the first one ended. -/
namespace LessonShell.PathText
open LessonShell.Path

theorem startsWith_slash_append {way : String} (filled : way ≠ "") (rest : String) :
    Text.startsWith (way ++ rest) "/" = Text.startsWith way "/" := by
  obtain ⟨first, more, chars⟩ := List.exists_cons_of_ne_nil (l := way.toList) fun empty =>
    filled (by simpa using empty)
  simp [Text.startsWith, chars, List.isPrefixOf]

/-- What stands behind a slash is followed from where the text before it leads. -/
theorem locate_append (cwd : String) {way : String} (filled : way ≠ "") (rest : String) :
    locate cwd (way ++ "/" ++ rest) = (ofText rest).foldl follow (locate cwd way) := by
  have start : Text.startsWith (way ++ "/" ++ rest) "/" = Text.startsWith way "/" := by
    rw [String.append_assoc, startsWith_slash_append filled]
  by_cases absolute : Text.startsWith way "/" = true
  · rw [locate_of_absolute cwd absolute, locate_of_absolute cwd (start.trans absolute), ofText_append_slash,
      List.foldl_append]
  · rw [locate_of_relative cwd absolute, locate_of_relative cwd (start ▸ absolute), ofText_append_slash,
      ← List.append_assoc, List.foldl_append]

theorem locate_resolve (cwd way : String) {rest : String} (relative : ¬ Text.startsWith rest "/" = true) :
    locate (resolve cwd way) rest = (ofText rest).foldl follow (locate cwd way) := by
  rw [locate_of_relative _ relative, ofText_resolve, List.foldl_append,
    foldl_follow_of_plain (locate_normal cwd way) (locate_plain cwd way)]
  rfl

/-- Every step up takes one segment away as long as there is one. -/
theorem locate_climb (cwd : String) {way : String} (filled : way ≠ "") (count : Nat) :
    locate cwd (way ++ String.join (List.replicate count "/..")) =
      (locate cwd way).take ((locate cwd way).length - count) := by
  induction count generalizing way with
  | zero => simp
  | succ count ih =>
    have spelled : way ++ String.join (List.replicate (count + 1) "/..") =
        way ++ "/" ++ ".." ++ String.join (List.replicate count "/..") := by
      rw [← String.toList_inj]
      simp [List.replicate_succ]
    have up : locate cwd (way ++ "/" ++ "..") = (locate cwd way).dropLast := by
      have piece : ofText ".." = [".."] := ofText_segment (by decide)
      rw [locate_append cwd filled, piece]
      rfl
    have held : way ++ "/" ++ ".." ≠ "" := by simp
    rw [spelled, ih held, up, List.dropLast_eq_take, List.length_take, List.take_take]
    congr 1
    omega

/-- The result is a spelling in normal form without directions and is not changed by resolving it again.
A relative path resolved from there is resolved as if it had been spelled behind the first one, and no
step up leaves the root. -/
theorem resolve_composes (cwd : String) :
    (∀ input, isNormal (resolve cwd input).toList = true ∧ (ofText (resolve cwd input)).Plain ∧
      ∀ other, resolve other (resolve cwd input) = resolve cwd input) ∧
    ∀ way, way ≠ "" →
      (∀ rest, Text.startsWith rest "/" = false →
        resolve (resolve cwd way) rest = resolve cwd (way ++ "/" ++ rest)) ∧
      ∀ count, ofText (resolve cwd (way ++ String.join (List.replicate count "/.."))) =
        (ofText (resolve cwd way)).take ((ofText (resolve cwd way)).length - count) := by
  refine ⟨fun input => ?_, fun way filled => ⟨fun rest relative => ?_, fun count => ?_⟩⟩
  · have normal := locate_normal cwd input
    have plain := locate_plain cwd input
    refine ⟨isNormal_text normal, ?_, resolve_text normal plain⟩
    rwa [ofText_resolve]
  · have behind : ¬ Text.startsWith rest "/" = true := by simp [relative]
    have same : locate (resolve cwd way) rest = locate cwd (way ++ "/" ++ rest) := by
      rw [locate_resolve cwd way behind, locate_append cwd filled]
    exact congrArg text same
  · rw [ofText_resolve, ofText_resolve, locate_climb cwd filled]

theorem resolve_composes_past_the_root :
    resolve (resolve "/home//al/" "../x/.") "y//../../../../c" = "/c" ∧
    resolve "/home//al/" "../x/./y//../../../../c" = "/c" ∧
    ofText (resolve "/home//al/" "x/../../..") = [] := by
  obtain ⟨-, followed⟩ := resolve_composes "/home//al/"
  have joined := (followed "../x/." (by decide)).1 "y//../../../../c" (by decide)
  have climbed := (followed "x" (by decide)).2 3
  have target : resolve (resolve "/home//al/" "../x/.") "y//../../../../c" = "/c" := by decide
  exact ⟨target, joined.symm.trans target, climbed.trans (by decide)⟩

end LessonShell.PathText

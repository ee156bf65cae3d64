import LessonShell.Proofs.Path
import Mathlib.Data.List.Infix

/-! Spellings in normal form. They are the texts that the segments of a path spell, so each is
known by its segments, and the text of a directory begins every text below it. -/
namespace LessonShell

theorem Text.occurs_iff {needle text : List Char} : occurs needle text = true ↔ needle <:+: text := by
  induction text with
  | nil => simp [occurs]
  | cons c rest ih =>
    rw [occurs, Bool.or_eq_true, ih, List.isPrefixOf_iff_prefix, List.infix_cons_iff]

theorem Path.text_prefix {top path : Path} (within : top <+: path) :
    top.text.toList <+: path.text.toList := by
  obtain ⟨rest, rfl⟩ := within
  cases top with
  | cons first more =>
    refine ⟨(String.join (rest.map ("/" ++ ·))).toList, ?_⟩
    simp [Path.text]
  | nil =>
    cases rest with
    | nil => exact List.prefix_refl _
    | cons first more =>
      refine ⟨(first ++ String.join (more.map ("/" ++ ·))).toList, ?_⟩
      simp [Path.text]

namespace PathText
open LessonShell.Path

theorem isNormal_iff {text : List Char} : isNormal text = true ↔
    text.head? = some '/' ∧ (1 < text.length → text.getLast? ≠ some '/') ∧ ¬ ['/', '/'] <:+: text := by
  simp only [isNormal, Bool.and_eq_true, beq_iff_eq, Bool.not_eq_true', Bool.and_eq_false_imp,
    decide_eq_true_eq, ← Text.occurs_iff, Bool.not_eq_true, and_assoc, ne_eq]
  simp

/-- What stands before the last segment of a text in normal form is in normal form again. -/
theorem isNormal_before {before after : List Char} (normal : isNormal (before ++ '/' :: after) = true)
    (filled : before ≠ []) : isNormal before = true ∧ before.getLast? ≠ some '/' := by
  obtain ⟨first, _, single⟩ := isNormal_iff.mp normal
  have unslashed : before.getLast? ≠ some '/' := by
    intro slash
    obtain ⟨front, rfl⟩ := List.getLast?_eq_some_iff.mp slash
    exact single ⟨front, after, by simp⟩
  refine ⟨isNormal_iff.mpr ⟨?_, fun _ => unslashed, fun double => single ?_⟩, unslashed⟩
  · rwa [List.head?_append_of_ne_nil before filled] at first
  · exact double.trans (List.prefix_append before _).isInfix

theorem text_ofText {text : String} (normal : isNormal text.toList = true) : (ofText text).text = text := by
  induction size : text.toList.length using Nat.strongRecOn generalizing text with
  | ind length ih =>
    have slash : '/' ∈ text.toList := List.mem_of_head? (isNormal_iff.mp normal).1
    obtain ⟨before, after, rfl, last⟩ := exists_last_slash slash
    have whole : (before ++ "/" ++ after).toList = before.toList ++ '/' :: after.toList := by simp
    rw [whole] at normal size
    rw [ofText_append_slash, ofText_unslashed last]
    by_cases closed : after = ""
    · subst closed
      have short := (isNormal_iff.mp normal).2.1
      have blank : before = "" := by
        by_contra filled
        have held : before.toList ≠ [] := fun empty => filled (by simpa using empty)
        have positive := List.length_pos_iff.mpr held
        exact short (by simp; omega) (by simp)
      subst blank
      rfl
    · have segment : IsSegment after := ⟨closed, last⟩
      rw [if_neg closed]
      change (child (ofText before) after).text = _
      by_cases blank : before = ""
      · subst blank
        rw [ofText_empty, text_child_root]
        simp
      · have held : before.toList ≠ [] := fun empty => blank (by simpa using empty)
        obtain ⟨above, open_⟩ := isNormal_before normal held
        have spelled := ih before.toList.length (by simp at size; omega) above rfl
        have below : ofText before ≠ root := by
          intro top
          rw [top] at spelled
          rw [← spelled] at open_
          exact open_ rfl
        rw [text_child below, spelled]

theorem occurs_append_unslashed {name : List Char} (unslashed : '/' ∉ name) (tail : List Char) :
    Text.occurs ['/', '/'] (name ++ tail) = Text.occurs ['/', '/'] tail := by
  induction name with
  | nil => rfl
  | cons c rest ih =>
    obtain ⟨differs, below⟩ := List.ne_and_not_mem_of_not_mem_cons unslashed
    have start : ['/', '/'].isPrefixOf (c :: (rest ++ tail)) = false := by simp [List.isPrefixOf, differs]
    rw [List.cons_append, Text.occurs, start, Bool.false_or, ih below]

theorem occurs_slash_segment {name : String} (segment : IsSegment name) (tail : List Char) :
    Text.occurs ['/', '/'] ('/' :: (name.toList ++ tail)) = Text.occurs ['/', '/'] tail := by
  obtain ⟨first, rest, chars⟩ := List.exists_cons_of_ne_nil (l := name.toList) fun empty =>
    segment.1 (by simpa using empty)
  have single : ['/', '/'].isPrefixOf ('/' :: (name.toList ++ tail)) = false := by
    have unslashed := segment.2
    rw [chars] at unslashed ⊢
    simp [List.isPrefixOf, (List.ne_and_not_mem_of_not_mem_cons unslashed).1]
  rw [Text.occurs, single, Bool.false_or, occurs_append_unslashed segment.2]

theorem occurs_join {path : Path} (normal : path.Normal) :
    Text.occurs ['/', '/'] (String.join (path.map ("/" ++ ·))).toList = false := by
  induction path with
  | nil => rfl
  | cons name rest ih =>
    obtain ⟨segment, below⟩ := List.forall_mem_cons.mp normal
    have whole : (String.join ((name :: rest).map ("/" ++ ·))).toList =
        '/' :: (name.toList ++ (String.join (rest.map ("/" ++ ·))).toList) := by simp
    rw [whole, occurs_slash_segment segment, ih below]

theorem isNormal_text {path : Path} (normal : path.Normal) : isNormal path.text.toList = true := by
  by_cases top : path = root
  · subst top
    rfl
  · have single := occurs_join normal
    have text : path.text = String.join (path.map ("/" ++ ·)) := by
      simp [Path.text, show path ≠ [] from top]
    rw [isNormal_iff, ← Text.occurs_iff, text, single]
    refine ⟨?_, fun _ => ?_, Bool.false_ne_true⟩
    · obtain ⟨name, rest, rfl⟩ := List.exists_cons_of_ne_nil top
      simp
    · rw [← child_parent_name top] at normal ⊢
      have segment := (normal_child.mp normal).2
      have last : (name path).toList.getLast? ≠ some '/' := fun slash => segment.2 (List.mem_of_getLast? slash)
      have filled : (name path).toList ≠ [] := fun empty => segment.1 (by simpa using empty)
      have cut : (String.join ((child path.parent path.name).map ("/" ++ ·))).toList =
          (String.join (path.parent.map ("/" ++ ·))).toList ++ ['/'] ++ path.name.toList := by simp [child]
      rwa [cut, List.getLast?_append_of_ne_nil _ filled]

theorem normalize_eq (text : String) : normalize text = (ofText text).text := by
  unfold normalize
  split
  · next normal => exact (text_ofText normal).symm
  · rfl

theorem isNormal_normalize (text : String) : isNormal (normalize text).toList = true := by
  rw [normalize_eq]
  exact isNormal_text (normal_ofText text)

@[simp] theorem ofText_normalize (text : String) : ofText (normalize text) = ofText text := by
  rw [normalize_eq, ofText_text (normal_ofText text)]

theorem normalize_eq_iff {first second : String} :
    normalize first = normalize second ↔ ofText first = ofText second := by
  constructor
  · intro same
    rw [← ofText_normalize first, same, ofText_normalize]
  · intro same
    rw [normalize_eq, normalize_eq, same]

end PathText
end LessonShell

import LessonShell.Path
import LessonShell.Proofs.Text.Pieces
import Mathlib.Data.List.Basic
import Mathlib.Data.List.Induction

/-! Paths and their spellings. `Path.ofText` reads every spelling of the same segments
alike, `Path.text` picks one of them, and the operations on spellings are operations on
the segments they denote. -/
namespace LessonShell

namespace Path

/-- No segment is one that a spelled path reads as a direction. -/
def Plain (path : Path) : Prop := "." ∉ path ∧ ".." ∉ path

instance (path : Path) : Decidable path.Plain := inferInstanceAs (Decidable (_ ∧ _))

@[simp] theorem normal_root : root.Normal := by simp [root, Normal]

theorem normal_append {front back : Path} : (front ++ back).Normal ↔ front.Normal ∧ back.Normal := by
  simp only [Normal, List.mem_append]
  constructor
  · intro all
    exact ⟨fun name member => all name (.inl member), fun name member => all name (.inr member)⟩
  · rintro ⟨first, second⟩ name (member | member)
    · exact first name member
    · exact second name member

theorem normal_child {path : Path} {name : String} :
    (path.child name).Normal ↔ path.Normal ∧ IsSegment name := by
  rw [child, normal_append]
  simp [Normal]

theorem Normal.parent {path : Path} (normal : path.Normal) : path.parent.Normal :=
  fun name member => normal name (List.dropLast_subset path member)

theorem Normal.of_within {front path : Path} (normal : path.Normal) (within : front <+: path) :
    front.Normal :=
  fun name member => normal name (within.subset member)

theorem Plain.parent {path : Path} (plain : path.Plain) : path.parent.Plain :=
  ⟨fun dot => plain.1 (List.dropLast_subset path dot), fun dots => plain.2 (List.dropLast_subset path dots)⟩

@[simp] theorem parent_child (path : Path) (name : String) : (path.child name).parent = path := by
  simp [parent, child]

@[simp] theorem name_child (path : Path) (name : String) : (path.child name).name = name := by
  simp [Path.name, child]

@[simp] theorem length_child (path : Path) (name : String) : (path.child name).length = path.length + 1 :=
  List.length_append

theorem child_ne_root (path : Path) (name : String) : path.child name ≠ root := by
  simp [child, root]

theorem ne_root_of_deep {path : Path} (deep : 1 < path.length) : path ≠ root := by
  rintro rfl
  cases deep

theorem child_parent_name {path : Path} (nonroot : path ≠ root) : path.parent.child path.name = path := by
  obtain ⟨front, last, rfl⟩ := (List.eq_nil_or_concat path).resolve_left nonroot
  simp [parent, child, Path.name]

theorem child_eq_iff {path other : Path} {name : String} (nonroot : other ≠ root) :
    path.child name = other ↔ path = other.parent ∧ name = other.name := by
  constructor
  · intro same
    rw [← same, parent_child, name_child]
    exact ⟨rfl, rfl⟩
  · intro both
    rw [both.1, both.2, child_parent_name nonroot]

theorem parent_within (path : Path) : path.parent <+: path := List.dropLast_prefix path

theorem parent_ne {path : Path} (nonroot : path ≠ root) : path.parent ≠ path := by
  intro same
  have shorter := congrArg List.length same
  have positive := List.length_pos_iff.mpr nonroot
  simp only [parent, List.length_dropLast] at shorter
  omega

theorem prefix_parent_of_ne {top path : Path} (within : top <+: path) (differs : top ≠ path) :
    top <+: path.parent := by
  obtain ⟨rest, rfl⟩ := within
  have below : rest ≠ [] := fun same => differs (by rw [same, List.append_nil])
  rw [parent, List.dropLast_append_of_ne_nil below]
  exact List.prefix_append top _

theorem not_child_within (path : Path) (name : String) : ¬ path.child name <+: path := by
  intro within
  have shorter := within.length_le
  simp only [child, List.length_append, List.length_singleton] at shorter
  omega

theorem isWithin_iff {path top : Path} : path.isWithin top = true ↔ top <+: path :=
  List.isPrefixOf_iff_prefix

theorem isSegment_ofText {text name : String} (member : name ∈ ofText text) : IsSegment name := by
  obtain ⟨field, inside, rfl⟩ := List.mem_map.mp member
  have nonempty := Text.field_ne_nil inside
  refine ⟨fun blank => nonempty ?_, fun slash => ?_⟩
  · simpa using congrArg String.toList blank
  · have unmarked := Text.unmarked_of_mem_fields inside '/' (by simpa using slash)
    simp at unmarked

theorem normal_ofText (text : String) : (ofText text).Normal := fun _ => isSegment_ofText

theorem ofText_append_slash (front back : String) :
    ofText (front ++ "/" ++ back) = ofText front ++ ofText back := by
  simp only [ofText, String.toList_append, List.append_assoc]
  change (Text.fields (· == '/') (front.toList ++ '/' :: back.toList)).map String.ofList = _
  rw [Text.fields_append_mark _ _ (by decide), List.map_append]

theorem ofText_slash (back : String) : ofText ("/" ++ back) = ofText back := by
  have parts := ofText_append_slash "" back
  simpa [ofText] using parts

@[simp] theorem ofText_empty : ofText "" = root := by simp [ofText, root]

@[simp] theorem ofText_root : ofText "/" = root := by simpa using ofText_slash ""

theorem ofText_unslashed {text : String} (unslashed : '/' ∉ text.toList) :
    ofText text = if text = "" then root else [text] := by
  split
  · next blank => rw [blank, ofText_empty]
  · next nonempty =>
    have held : text.toList ≠ [] := fun empty => nonempty (by simpa using empty)
    rw [ofText, Text.fields_of_unmarked (Text.unmarked_of_not_mem unslashed) held]
    simp

theorem ofText_segment {name : String} (segment : IsSegment name) : ofText name = [name] := by
  rw [ofText_unslashed segment.2, if_neg segment.1]

@[simp] theorem text_root : text root = "/" := rfl

theorem text_child_root (name : String) : text (child root name) = "/" ++ name := by
  simp [text, child, root]

theorem text_child {path : Path} (nonroot : path ≠ root) (name : String) :
    text (path.child name) = path.text ++ "/" ++ name := by
  have filled : path.isEmpty = false := by simpa [root] using nonroot
  rw [← String.toList_inj]
  simp [text, child, filled]

theorem ofText_text {path : Path} (normal : path.Normal) : ofText path.text = path := by
  induction path using List.reverseRecOn with
  | nil => exact ofText_root
  | append_singleton front last ih =>
    obtain ⟨above, segment⟩ := normal_child.mp normal
    change ofText (text (child front last)) = front ++ [last]
    by_cases top : front = root
    · rw [top, text_child_root, ofText_slash, ofText_segment segment]
      rfl
    · rw [text_child top, ofText_append_slash, ih above, ofText_segment segment]

theorem ofText_text_append {path : Path} (normal : path.Normal) {suffix : String}
    (continued : suffix = "" ∨ Text.startsWith suffix "/" = true) :
    ofText (path.text ++ suffix) = path ++ ofText suffix := by
  rcases continued with rfl | slashed
  · rw [String.append_empty, ofText_text normal, ofText_empty]
    exact (List.append_nil path).symm
  · obtain ⟨rest, rfl⟩ := Text.startsWith_iff.mp slashed
    rw [← String.append_assoc, ofText_append_slash, ofText_text normal, ofText_slash]

theorem text_injective {first second : Path} (left : first.Normal) (right : second.Normal)
    (same : first.text = second.text) : first = second := by
  rw [← ofText_text left, same, ofText_text right]

theorem follow_normal {here : Path} {piece : String} (normal : here.Normal)
    (unslashed : '/' ∉ piece.toList) : (here.follow piece).Normal := by
  unfold follow
  split
  · exact normal
  · next moved =>
    split
    · exact normal.parent
    · exact normal_child.mpr ⟨normal, fun blank => moved (.inl blank), unslashed⟩

theorem follow_plain {here : Path} {piece : String} (plain : here.Plain) :
    (here.follow piece).Plain := by
  unfold follow
  split
  · exact plain
  · next moved =>
    split
    · exact plain.parent
    · next down =>
      have dot : "." ≠ piece := fun same => moved (.inr same.symm)
      have up : ".." ≠ piece := fun same => down same.symm
      exact ⟨by simpa [dot] using plain.1, by simpa [up] using plain.2⟩

end Path

namespace PathText
open LessonShell.Path

theorem ofText_join (dir name : String) : ofText (join dir name) = ofText dir ++ ofText name := by
  unfold join
  split
  · next top => rw [top, ofText_slash, ofText_root]; rfl
  · exact ofText_append_slash dir name

theorem ofText_join_segment (dir : String) {name : String} (segment : IsSegment name) :
    ofText (join dir name) = (ofText dir).child name := by
  rw [ofText_join, ofText_segment segment]
  rfl

theorem join_text {path : Path} (normal : path.Normal) (name : String) :
    join path.text name = (path.child name).text := by
  by_cases top : path = root
  · rw [top, text_child_root]
    rfl
  · have below : path.text ≠ "/" := by
      intro slash
      have same := congrArg ofText slash
      rw [ofText_text normal, ofText_root] at same
      exact top same
    rw [join, if_neg below, text_child top]

theorem exists_last_slash {text : String} (slash : '/' ∈ text.toList) :
    ∃ before after : String, text = before ++ "/" ++ after ∧ '/' ∉ after.toList := by
  obtain ⟨before, after, parts, last⟩ := Text.exists_last_mark slash
  refine ⟨String.ofList before, String.ofList after, ?_, by simpa using last⟩
  rw [← String.toList_inj]
  simp [parts]

theorem parent_append (before : String) {after : String} (last : '/' ∉ after.toList) :
    parent (before ++ "/" ++ after) = if before = "" then "/" else before := by
  have cut := Text.beforeLast?_append before.toList last
  have whole : (before ++ "/" ++ after).toList = before.toList ++ '/' :: after.toList := by simp
  rw [parent, whole, cut]
  split
  · next blank => simp at blank
  · next blank =>
    have empty : before = "" := by simpa using blank
    simp [empty]
  · next kept nonempty found =>
    have same : before.toList = kept := Option.some.inj found
    have held : before ≠ "" := fun blank => nonempty (by rw [← same, blank, String.toList_empty])
    rw [if_neg held, ← same, String.ofList_toList]

theorem parent_unslashed {text : String} (unslashed : '/' ∉ text.toList) : parent text = "/" := by
  simp [parent, Text.beforeLast?_of_not_mem unslashed]

theorem ofText_parent_append (before : String) {after : String} (last : '/' ∉ after.toList) :
    ofText (parent (before ++ "/" ++ after)) = ofText before := by
  rw [parent_append before last]
  split
  · next blank => rw [blank, ofText_root, ofText_empty]
  · rfl

/-- The text above a spelled path denotes the directory above it, or the same path where
the spelling ends with a slash. -/
theorem ofText_parent (text : String) :
    ofText (parent text) = ofText text ∨ ofText (parent text) = (ofText text).parent := by
  by_cases slash : '/' ∈ text.toList
  · obtain ⟨before, after, rfl, last⟩ := exists_last_slash slash
    rw [ofText_parent_append before last, ofText_append_slash, ofText_unslashed last]
    split
    · exact .inl (by simp [root])
    · exact .inr (by simp [Path.parent])
  · rw [parent_unslashed slash, ofText_unslashed slash, ofText_root]
    split
    · exact .inl rfl
    · exact .inr rfl

/-- A spelled path is cut to the directory above it exactly if it does not end with a slash. -/
theorem ofText_parent_iff {text : String} (nonroot : ofText text ≠ root) :
    ofText (parent text) = (ofText text).parent ↔ text.toList.getLast? ≠ some '/' := by
  by_cases slash : '/' ∈ text.toList
  · obtain ⟨before, after, rfl, last⟩ := exists_last_slash slash
    rw [ofText_parent_append before last]
    by_cases ends : after = ""
    · subst ends
      rw [ofText_append_slash, ofText_empty, root, List.append_nil] at nonroot ⊢
      refine iff_of_false (Ne.symm (parent_ne nonroot)) (not_not.mpr ?_)
      simp
    · have held : after.toList ≠ [] := by simpa using ends
      rw [ofText_append_slash, ofText_segment ⟨ends, last⟩]
      refine iff_of_true (by simp [Path.parent]) fun trailing => last ?_
      rw [String.toList_append, List.getLast?_append_of_ne_nil _ held] at trailing
      exact List.mem_of_getLast? trailing
  · have filled : text ≠ "" := fun blank => nonroot (by rw [blank, ofText_empty])
    rw [parent_unslashed slash, ofText_root, ofText_segment ⟨filled, slash⟩]
    exact iff_of_true rfl fun trailing => slash (List.mem_of_getLast? trailing)

theorem parent_length_lt {text : String} (deep : 1 < (Path.ofText text).length) :
    (parent text).toList.length < text.toList.length := by
  by_cases slash : '/' ∈ text.toList
  · obtain ⟨before, after, rfl, last⟩ := exists_last_slash slash
    have filled : before ≠ "" := by
      rintro rfl
      rw [Path.ofText_append_slash, Path.ofText_unslashed last] at deep
      split at deep <;> simp [Path.root] at deep
    rw [parent_append before last, if_neg filled]
    simp
  · rw [Path.ofText_unslashed slash] at deep
    split at deep <;> simp [Path.root] at deep

theorem parent_text {path : Path} (normal : path.Normal) (nonroot : path ≠ root) :
    parent path.text = path.parent.text := by
  obtain ⟨above, name, rfl⟩ := (List.eq_nil_or_concat' path).resolve_left nonroot
  obtain ⟨_, segment⟩ := normal_child.mp normal
  change parent (text (child above name)) = (child above name).parent.text
  rw [parent_child]
  by_cases top : above = root
  · subst top
    have spelled : text (child root name) = "" ++ "/" ++ name := by simp [text_child_root]
    rw [spelled, parent_append "" segment.2]
    rfl
  · have filled : text above ≠ "" := by
      intro blank
      have same := congrArg ofText blank
      rw [ofText_text (normal_child.mp normal).1, ofText_empty] at same
      exact top same
    rw [text_child top, parent_append (text above) segment.2, if_neg filled]

private theorem foldl_follow_keeps {keeps : Path → Prop} {pieces : List String} {start : Path}
    (initial : keeps start)
    (step : ∀ here, ∀ piece ∈ pieces, keeps here → keeps (here.follow piece)) :
    keeps (pieces.foldl follow start) := by
  induction pieces generalizing start with
  | nil => exact initial
  | cons piece rest ih =>
    have next := step start piece List.mem_cons_self initial
    exact ih next fun here other member => step here other (List.mem_cons_of_mem piece member)

theorem unslashed_of_mem_splitOn {text piece : String} (member : piece ∈ Text.splitOn '/' text) :
    '/' ∉ piece.toList := by
  obtain ⟨chars, inside, rfl⟩ := List.mem_map.mp member
  rw [String.toList_ofList]
  exact Text.not_mem_of_mem_pieces inside

theorem locate_normal (cwd input : String) : (locate cwd input).Normal :=
  foldl_follow_keeps normal_root fun _ _ member normal =>
    follow_normal normal (unslashed_of_mem_splitOn member)

theorem locate_plain (cwd input : String) : (locate cwd input).Plain :=
  foldl_follow_keeps (by simp [Plain, root]) fun _ _ _ => follow_plain

@[simp] theorem ofText_resolve (cwd input : String) : ofText (resolve cwd input) = locate cwd input :=
  ofText_text (locate_normal cwd input)

theorem ofText_eq_filter (text : String) : ofText text = (Text.splitOn '/' text).filter (· ≠ "") := by
  rw [ofText, Text.splitOn, Text.fields, List.filter_map]
  congr 1
  apply List.filter_congr
  intro piece _
  simp [Function.comp]

private theorem foldl_follow_filter (pieces : List String) (start : Path) :
    (pieces.filter (· ≠ "")).foldl follow start = pieces.foldl follow start := by
  rw [List.foldl_filter]
  congr 1
  funext here piece
  by_cases blank : piece = "" <;> simp [blank, follow]

private theorem foldl_follow_splitOn (text : String) (start : Path) :
    (Text.splitOn '/' text).foldl follow start = (ofText text).foldl follow start := by
  rw [ofText_eq_filter, foldl_follow_filter]

/-- Of what is spelled only the segments count, -/
theorem locate_of_absolute (cwd : String) {input : String} (absolute : Text.startsWith input "/" = true) :
    locate cwd input = (ofText input).foldl follow root := by
  rw [locate, if_pos absolute, foldl_follow_splitOn]

/-- and those of the working directory come first unless the input starts at the root. -/
theorem locate_of_relative (cwd : String) {input : String} (relative : ¬ Text.startsWith input "/" = true) :
    locate cwd input = (ofText cwd ++ ofText input).foldl follow root := by
  rw [locate, if_neg relative, foldl_follow_splitOn, ofText_join]

theorem foldl_follow_of_plain {path : Path} (normal : path.Normal) (plain : path.Plain) (start : Path) :
    path.foldl follow start = start ++ path := by
  induction path generalizing start with
  | nil => simp
  | cons name rest ih =>
    obtain ⟨segment, below⟩ := List.forall_mem_cons.mp normal
    obtain ⟨notDot, others⟩ := List.ne_and_not_mem_of_not_mem_cons plain.1
    obtain ⟨notUp, remaining⟩ := List.ne_and_not_mem_of_not_mem_cons plain.2
    have next : start.follow name = start ++ [name] := by
      simp [follow, segment.1, Ne.symm notDot, Ne.symm notUp]
    rw [List.foldl_cons, next, ih below ⟨others, remaining⟩, List.append_assoc]
    rfl

theorem locate_absolute (cwd : String) {input : String} (absolute : Text.startsWith input "/" = true)
    (plain : (ofText input).Plain) : locate cwd input = ofText input := by
  rw [locate_of_absolute cwd absolute, foldl_follow_of_plain (normal_ofText input) plain]
  rfl

theorem startsWith_text (path : Path) : Text.startsWith path.text "/" = true := by
  refine Text.startsWith_iff.mpr ?_
  cases path with
  | nil => exact ⟨"", rfl⟩
  | cons name rest =>
    refine ⟨name ++ String.join (rest.map ("/" ++ ·)), ?_⟩
    simp [Path.text, String.append_assoc]

/-- The spelling of a path without directions leads to it from everywhere. -/
theorem resolve_text {path : Path} (normal : path.Normal) (plain : path.Plain) (cwd : String) :
    resolve cwd path.text = path.text := by
  have spelled := ofText_text normal
  rw [resolve, locate_absolute cwd (startsWith_text path) (spelled.symm ▸ plain), spelled]

theorem not_absolute {text : String} (unslashed : '/' ∉ text.toList) : ¬ Text.startsWith text "/" = true := by
  rw [Text.startsWith_iff]
  rintro ⟨rest, rfl⟩
  simp at unslashed

/-- A single segment is followed from where the working directory leads. -/
theorem locate_segment {cwd name : String} (plain : (ofText cwd).Plain) (segment : IsSegment name) :
    locate cwd name = (ofText cwd).follow name := by
  rw [locate_of_relative cwd (not_absolute segment.2), ofText_segment segment, List.foldl_append,
    foldl_follow_of_plain (normal_ofText cwd) plain]
  rfl

theorem locate_here {cwd : String} (plain : (ofText cwd).Plain) : locate cwd "." = ofText cwd :=
  locate_segment plain (by decide)

end PathText
end LessonShell

import LessonShell.Proofs.Text.Cuts
import Mathlib.Data.List.Find
import Mathlib.Data.List.Nodup

/-! Filling in placeholders. A placeholder is a word in braces, so two of them never overlap, and a text can
be filled in piece by piece, and there is one way to put the values of a table in the place of its
placeholders all at once. -/
namespace LessonShell.Text

/-- A word in braces, which has no other braces. -/
def IsPlaceholder (mark : List Char) : Prop :=
  ∃ word, mark = '\x7b' :: (word ++ ['\x7d']) ∧ '\x7b' ∉ word ∧ '\x7d' ∉ word

/-- Placeholders and the values that stand for them. -/
abbrev Values := List (List Char × List Char)

/-- The text with each placeholder of the table replaced by its value and everything else kept: no value is
looked at again. -/
inductive Filled (values : Values) : List Char → List Char → Prop
  | verbatim {text : List Char} (absent : ∀ row ∈ values, ¬ row.1 <:+: text) : Filled values text text
  | placeholder {row : List Char × List Char} (member : row ∈ values) {before after front back : List Char}
    (left : Filled values before front) (right : Filled values after back) :
    Filled values (before ++ row.1 ++ after) (front ++ row.2 ++ back)

/-- Fills in the values from left to right; `skip` counts characters of a placeholder already replaced. -/
def substituteFrom (values : Values) : Nat → List Char → List Char
  | _, [] => []
  | skip + 1, _ :: rest => substituteFrom values skip rest
  | 0, c :: rest =>
    match values.find? (·.1.isPrefixOf (c :: rest)) with
    | some row => row.2 ++ substituteFrom values (row.1.length - 1) rest
    | none => c :: substituteFrom values 0 rest

def substitute (values : Values) (text : List Char) : List Char := substituteFrom values 0 text

theorem replaceFrom_eq (mark value : List Char) (skip : Nat) (text : List Char) :
    replaceFrom mark value skip text = substituteFrom [(mark, value)] skip text := by
  fun_induction replaceFrom mark value skip text with
  | case1 => simp [substituteFrom]
  | case2 skip _ rest ih => rw [substituteFrom, ih]
  | case3 c rest begins ih => simp [substituteFrom, begins, ih]
  | case4 c rest apart ih => simp [substituteFrom, apart, ih]

section places
variable {mark other : List Char}

theorem takeWhile_append_mark {word : List Char} {c : Char} (absent : c ∉ word) (rest : List Char) :
    (word ++ c :: rest).takeWhile (· ≠ c) = word := by
  rw [List.takeWhile_append_of_pos]
  · simp
  · intro d member
    have differs : d ≠ c := fun same => absent (same ▸ member)
    simpa using differs

theorem IsPlaceholder.ne_nil (placeholder : IsPlaceholder mark) : mark ≠ [] := by
  obtain ⟨word, rfl, -, -⟩ := placeholder
  exact List.cons_ne_nil _ _

theorem IsPlaceholder.exists_cons (placeholder : IsPlaceholder mark) :
    ∃ rest, mark = '\x7b' :: rest ∧ '\x7b' ∉ rest := by
  obtain ⟨word, rfl, opening, -⟩ := placeholder
  exact ⟨word ++ ['\x7d'], rfl, by simpa using opening⟩

theorem IsPlaceholder.isPrefixOf_of_ne (placeholder : IsPlaceholder mark) {c : Char} (differs : c ≠ '\x7b')
    (rest : List Char) : mark.isPrefixOf (c :: rest) = false := by
  obtain ⟨tail, rfl, -⟩ := placeholder.exists_cons
  rw [Bool.eq_false_iff, ne_eq, List.isPrefixOf_iff_prefix, List.cons_prefix_cons]
  exact fun begins => differs begins.1.symm

/-- A placeholder that stands before an opening brace ends before it. -/
theorem IsPlaceholder.isPrefixOf_append (placeholder : IsPlaceholder mark) (c : Char) (text rest : List Char) :
    mark.isPrefixOf (c :: (text ++ '\x7b' :: rest)) = mark.isPrefixOf (c :: text) := by
  obtain ⟨tail, rfl, outside⟩ := placeholder.exists_cons
  rw [List.isPrefixOf_cons_cons, List.isPrefixOf_cons_cons, isPrefixOf_append_cons outside]

theorem IsPlaceholder.isPrefixOf_iff (placeholder : IsPlaceholder mark) (given : IsPlaceholder other)
    (rest : List Char) : mark.isPrefixOf (other ++ rest) = true ↔ mark = other := by
  obtain ⟨word, rfl, -, closing⟩ := placeholder
  obtain ⟨name, rfl, -, ending⟩ := given
  rw [List.isPrefixOf_iff_prefix, List.cons_append, List.cons_prefix_cons]
  constructor
  · rintro ⟨-, tail, same⟩
    -- Both words end at the first closing brace.
    rw [List.append_assoc, List.append_assoc, List.singleton_append, List.singleton_append] at same
    have cut := congrArg (List.takeWhile (· ≠ '\x7d')) same
    rw [takeWhile_append_mark closing, takeWhile_append_mark ending] at cut
    rw [cut]
  · intro same
    have words : word = name := by simpa using same
    rw [words]
    exact ⟨rfl, List.prefix_append _ _⟩

theorem IsPlaceholder.single (placeholder : IsPlaceholder mark) (value : List Char) :
    ∀ row ∈ [(mark, value)], IsPlaceholder row.1 := by
  intro row member
  rwa [List.mem_singleton.mp member]

end places

/-- What stands for a placeholder; one that the table does not have is kept. -/
def valueOf (values : Values) (mark : List Char) : List Char :=
  ((values.find? (·.1 = mark)).map (·.2)).getD mark

section tables
variable {values : Values} {mark text : List Char}

theorem substituteFrom_found {c : Char} {rest : List Char} {row : List Char × List Char}
    (found : values.find? (·.1.isPrefixOf (c :: rest)) = some row) :
    substituteFrom values 0 (c :: rest) = row.2 ++ substituteFrom values (row.1.length - 1) rest := by
  rw [substituteFrom, found]

theorem substituteFrom_unfound {c : Char} {rest : List Char}
    (unfound : values.find? (·.1.isPrefixOf (c :: rest)) = none) :
    substituteFrom values 0 (c :: rest) = c :: substituteFrom values 0 rest := by
  rw [substituteFrom, unfound]

theorem substituteFrom_skip (before rest : List Char) :
    substituteFrom values before.length (before ++ rest) = substitute values rest := by
  induction before with
  | nil => rfl
  | cons c before ih => rw [List.cons_append, List.length_cons, substituteFrom, ih]

theorem substitute_of_absent (absent : ∀ row ∈ values, ¬ row.1 <:+: text) : substitute values text = text := by
  induction text with
  | nil => simp [substitute, substituteFrom]
  | cons c rest ih =>
    have none : values.find? (·.1.isPrefixOf (c :: rest)) = none := by
      rw [List.find?_eq_none]
      intro row member begins
      exact absent row member (List.isPrefixOf_iff_prefix.mp begins).isInfix
    have later := ih fun row member inside => absent row member (List.infix_cons inside)
    rw [substitute, substituteFrom_unfound none]
    exact congrArg (c :: ·) later

variable (marked : ∀ row ∈ values, IsPlaceholder row.1)
include marked

theorem substituteFrom_append_brace {skip : Nat} (within : skip ≤ text.length) (rest : List Char) :
    substituteFrom values skip (text ++ '\x7b' :: rest) =
      substituteFrom values skip text ++ substitute values ('\x7b' :: rest) := by
  induction text generalizing skip with
  | nil =>
    obtain rfl := Nat.le_zero.mp within
    rfl
  | cons c text ih =>
    cases skip with
    | succ skip => rw [List.cons_append, substituteFrom, substituteFrom, ih (Nat.le_of_succ_le_succ within)]
    | zero =>
      have same : values.find? (·.1.isPrefixOf (c :: (text ++ '\x7b' :: rest))) =
          values.find? (·.1.isPrefixOf (c :: text)) :=
        List.find?_congr fun row member => (marked row member).isPrefixOf_append c text rest
      cases found : values.find? (·.1.isPrefixOf (c :: text)) with
      | none =>
        rw [List.cons_append, substituteFrom_unfound (same.trans found), substituteFrom_unfound found,
          ih (Nat.zero_le _), List.cons_append]
      | some row =>
        have begins := List.find?_some found
        have short := (List.isPrefixOf_iff_prefix.mp begins).length_le
        rw [List.cons_append, substituteFrom_found (same.trans found), substituteFrom_found found,
          ih (Nat.sub_le_of_le_add short), List.append_assoc]

theorem substitute_unbraced {before : List Char} (unbraced : '\x7b' ∉ before) (rest : List Char) :
    substitute values (before ++ rest) = before ++ substitute values rest := by
  induction before with
  | nil => rfl
  | cons c before ih =>
    obtain ⟨differs, others⟩ := List.ne_and_not_mem_of_not_mem_cons unbraced
    have none : values.find? (·.1.isPrefixOf (c :: (before ++ rest))) = none := by
      rw [List.find?_eq_none]
      intro row member
      rw [(marked row member).isPrefixOf_of_ne (Ne.symm differs)]
      exact Bool.false_ne_true
    rw [List.cons_append, substitute, substituteFrom_unfound none]
    exact congrArg (c :: ·) (ih others)

theorem substitute_placeholder (placeholder : IsPlaceholder mark) (rest : List Char) :
    substitute values (mark ++ rest) = valueOf values mark ++ substitute values rest := by
  have same : values.find? (·.1.isPrefixOf (mark ++ rest)) = values.find? (·.1 = mark) :=
    List.find?_congr fun row member => by
      rw [Bool.eq_iff_iff, (marked row member).isPrefixOf_iff placeholder, decide_eq_true_iff]
  obtain ⟨tail, rfl, unbraced⟩ := placeholder.exists_cons
  rw [List.cons_append] at same ⊢
  cases found : values.find? (·.1 = '\x7b' :: tail) with
  | none =>
    rw [substitute, substituteFrom_unfound (same.trans found), valueOf, found]
    exact congrArg (_ :: ·) (substitute_unbraced marked unbraced rest)
  | some row =>
    have named : row.1 = '\x7b' :: tail := by simpa using List.find?_some found
    rw [substitute, substituteFrom_found (same.trans found), named, List.length_cons, Nat.add_sub_cancel,
      substituteFrom_skip, valueOf, found]
    rfl

/-- A text is filled in on both sides of a placeholder separately. -/
theorem substitute_append (placeholder : IsPlaceholder mark) (before after : List Char) :
    substitute values (before ++ mark ++ after) =
      substitute values before ++ valueOf values mark ++ substitute values after := by
  obtain ⟨tail, spelled, -⟩ := placeholder.exists_cons
  have cut := substituteFrom_append_brace marked (Nat.zero_le before.length) (tail ++ after)
  rw [← List.cons_append, ← spelled, ← List.append_assoc] at cut
  rw [substitute, cut, substitute_placeholder marked placeholder, ← List.append_assoc]
  rfl

end tables

/-- Either no mark stands in a text, or one stands between two shorter texts. -/
theorem cut_induction {marks : List (List Char)} (filled : ∀ mark ∈ marks, mark ≠ [])
    {motive : List Char → Prop} (absent : ∀ text, (∀ mark ∈ marks, ¬ mark <:+: text) → motive text)
    (cut : ∀ mark ∈ marks, ∀ before after, motive before → motive after → motive (before ++ mark ++ after))
    (text : List Char) : motive text := by
  induction size : text.length using Nat.strongRecOn generalizing text with
  | ind length ih =>
    by_cases clear : ∀ mark ∈ marks, ¬ mark <:+: text
    · exact absent text clear
    · simp only [not_forall, not_not] at clear
      obtain ⟨mark, member, before, after, rfl⟩ := clear
      have positive := List.length_pos_iff.mpr (filled mark member)
      simp only [List.length_append] at size
      have left := ih before.length (by omega) before rfl
      have right := ih after.length (by omega) after rfl
      exact cut mark member before after left right

theorem mark_induction {mark : List Char} (filled : mark ≠ []) {motive : List Char → Prop}
    (absent : ∀ text, ¬ mark <:+: text → motive text)
    (cut : ∀ before after, motive before → motive after → motive (before ++ mark ++ after))
    (text : List Char) : motive text := by
  have nonempty : ∀ other ∈ [mark], other ≠ [] := List.forall_mem_singleton.mpr filled
  refine cut_induction nonempty ?_ ?_ text
  · intro text clear
    exact absent text (clear mark (List.mem_singleton.mpr rfl))
  · intro other member
    rw [List.mem_singleton.mp member]
    exact cut

section filled
variable {values : Values} {text result : List Char} (marked : ∀ row ∈ values, IsPlaceholder row.1)
  (distinct : (values.map (·.1)).Nodup)
include marked distinct

omit marked in
theorem valueOf_of_mem {row : List Char × List Char} (member : row ∈ values) : valueOf values row.1 = row.2 := by
  have present : (values.find? (·.1 = row.1)).isSome = true :=
    List.find?_isSome.mpr ⟨row, member, by simp⟩
  obtain ⟨other, found⟩ := Option.isSome_iff_exists.mp present
  have named : other.1 = row.1 := by simpa using List.find?_some found
  have same := List.inj_on_of_nodup_map distinct (List.mem_of_find?_eq_some found) member named
  rw [valueOf, found, same]
  rfl

/-- A table of different placeholders fills in each text in exactly one way. -/
theorem filled_iff : Filled values text result ↔ result = substitute values text := by
  constructor
  · intro filled
    induction filled with
    | verbatim absent => exact (substitute_of_absent absent).symm
    | placeholder member left right front back =>
      rw [substitute_append marked (marked _ member), valueOf_of_mem distinct member, ← front, ← back]
  · rintro rfl
    have nonempty : ∀ mark ∈ values.map (·.1), mark ≠ [] := by
      intro mark member
      obtain ⟨row, inside, rfl⟩ := List.mem_map.mp member
      exact (marked row inside).ne_nil
    induction text using cut_induction nonempty with
    | absent text clear =>
      have absent : ∀ row ∈ values, ¬ row.1 <:+: text := fun row inside => clear row.1 (List.mem_map_of_mem inside)
      rw [substitute_of_absent absent]
      exact .verbatim absent
    | cut mark member before after left right =>
      obtain ⟨row, inside, rfl⟩ := List.mem_map.mp member
      rw [substitute_append marked (marked row inside), valueOf_of_mem distinct inside]
      exact .placeholder inside left right

end filled
end LessonShell.Text

import LessonShell.Proofs.Text.Pieces
import LessonShell.Text.Blank
import Mathlib.Data.List.Induction
import Mathlib.Data.List.TakeWhile

/-! Words of a line. Blanks around a line do not count, and the words of a line that was
put together from words are these words. -/
namespace LessonShell.Text

/-- A text that a command can receive as one argument. -/
def IsWord (name : String) : Prop := name ≠ "" ∧ ∀ c ∈ name.toList, isBlank c = false

instance (name : String) : Decidable (IsWord name) :=
  decidable_of_iff (name ≠ "" ∧ name.toList.all (!isBlank ·) = true) (by simp [IsWord])

theorem isWord_of_mem_words {text name : String} (member : name ∈ words text) : IsWord name := by
  obtain ⟨field, inside, rfl⟩ := List.mem_map.mp member
  refine ⟨fun blank => field_ne_nil inside ?_, ?_⟩
  · simpa using congrArg String.toList blank
  · simpa using unmarked_of_mem_fields inside

theorem fields_dropWhile (cut : Char → Bool) (text : List Char) :
    fields cut (text.dropWhile cut) = fields cut text := by
  induction text with
  | nil => rfl
  | cons c rest ih =>
    cases isMark : cut c with
    | true => rw [List.dropWhile_cons_of_pos isMark, ih, fields_cons_mark rest isMark]
    | false => rw [List.dropWhile_cons_of_neg (by simp [isMark])]

theorem fields_dropEndWhile (cut : Char → Bool) (text : List Char) :
    fields cut (dropEndWhile cut text) = fields cut text := by
  induction text using List.reverseRecOn with
  | nil => rfl
  | append_singleton front last ih =>
    unfold dropEndWhile at ih ⊢
    rw [List.reverse_append, List.reverse_singleton, List.singleton_append]
    cases isMark : cut last with
    | true =>
      rw [List.dropWhile_cons_of_pos isMark, ih, fields_append_mark front [] isMark]
      simp
    | false => simp [List.dropWhile_cons_of_neg, isMark]

theorem fields_append_left {cut : Char → Bool} {lead : List Char} (marks : ∀ c ∈ lead, cut c = true) (text : List Char) :
    fields cut (lead ++ text) = fields cut text := by
  rw [← fields_dropWhile, List.dropWhile_append_of_pos marks, fields_dropWhile]

theorem fields_field_append {cut : Char → Bool} {field gap rest : List Char} (filled : field ≠ [])
    (unmarked : ∀ c ∈ field, cut c = false) (marks : ∀ c ∈ gap, cut c = true) (apart : gap = [] → rest = []) :
    fields cut (field ++ (gap ++ rest)) = field :: fields cut rest := by
  have alone := fields_of_unmarked unmarked filled
  cases gap with
  | nil => rw [apart rfl, List.append_nil, List.append_nil, alone, fields_nil]
  | cons mark others =>
    obtain ⟨first, later⟩ := List.forall_mem_cons.mp marks
    rw [List.cons_append, fields_append_mark field _ first, alone, fields_append_left later]
    rfl

@[simp] theorem words_trimmed (text : String) : words (trimmed text) = words text := by
  rw [words, words, trimmed, trim, trimStart]
  simp [fields_dropEndWhile, fields_dropWhile]

theorem trimmed_ne_empty {text : String} (filled : words text ≠ []) : trimmed text ≠ "" := by
  intro blank
  rw [← words_trimmed, blank] at filled
  exact filled (by simp [words])

theorem words_ne_nil {text : String} (filled : trimmed text ≠ "") : words text ≠ [] := by
  intro empty
  have none : fields isBlank (text.toList.dropWhile isBlank) = [] := by
    rw [fields_dropWhile]
    exact List.map_eq_nil_iff.mp empty
  cases left : text.toList.dropWhile isBlank with
  | nil =>
    apply filled
    simp [trimmed, trim, trimStart, left, dropEndWhile]
  | cons c rest =>
    have first := List.head?_dropWhile_not isBlank text.toList
    rw [left] at none first
    exact fields_cons_ne_nil rest (by simpa using first) none

theorem words_of_isWord {name : String} (word : IsWord name) : words name = [name] := by
  have held : name.toList ≠ [] := fun empty => word.1 (by simpa using empty)
  simp [words, fields_of_unmarked word.2 held]

theorem words_append (first rest : String) : words (first ++ " " ++ rest) = words first ++ words rest := by
  have blank : isBlank ' ' = true := by decide
  simp only [words, String.toList_append, List.append_assoc, ← List.map_append]
  rw [← fields_append_mark first.toList rest.toList blank]
  rfl

theorem words_intercalate {names : List String} (all : ∀ name ∈ names, IsWord name) :
    words (" ".intercalate names) = names := by
  induction names with
  | nil => rfl
  | cons name rest ih =>
    have word := all name List.mem_cons_self
    have others := ih fun other member => all other (List.mem_cons_of_mem name member)
    cases rest with
    | nil => simpa using words_of_isWord word
    | cons next more =>
      rw [String.intercalate_cons_cons, words_append, others, words_of_isWord word]
      rfl

theorem dropWhile_of_head {drop : Char → Bool} {text : List Char} (kept : ∀ c ∈ text.head?, drop c = false) :
    text.dropWhile drop = text := by
  cases text with
  | nil => rfl
  | cons c rest => exact List.dropWhile_cons_of_neg (by simpa using kept c rfl)

theorem dropWhile_front {drop : Char → Bool} {front text : List Char} (dropped : ∀ c ∈ front, drop c = true)
    (kept : ∀ c ∈ text.head?, drop c = false) : (front ++ text).dropWhile drop = text := by
  rw [List.dropWhile_append_of_pos dropped, dropWhile_of_head kept]

theorem trim_of_ends {text : List Char} (head : ∀ c ∈ text.head?, isBlank c = false)
    (last : ∀ c ∈ text.getLast?, isBlank c = false) : trim text = text := by
  rw [← List.head?_reverse] at last
  rw [trim, trimStart, dropWhile_of_head head, dropEndWhile, dropWhile_of_head last, List.reverse_reverse]

theorem head_dropWhile {drop : Char → Bool} {text : List Char} :
    ∀ c ∈ (text.dropWhile drop).head?, drop c = false := by
  intro c first
  have kept := List.head?_dropWhile_not drop text
  rw [first] at kept
  exact kept

theorem trim_trim (text : List Char) : trim (trim text) = trim text := by
  refine trim_of_ends ?_ ?_
  · intro c first
    have front : trim text <+: trimStart text := by
      rw [trim, dropEndWhile, ← List.reverse_suffix, List.reverse_reverse]
      exact List.dropWhile_suffix isBlank
    obtain ⟨rest, whole⟩ := front
    have start : c ∈ (trimStart text).head? := by
      rw [← whole, List.head?_append, first]
      rfl
    exact head_dropWhile c start
  · intro c last
    rw [trim, dropEndWhile, List.getLast?_reverse] at last
    exact head_dropWhile c last

theorem trim_append_left {lead : List Char} (blank : ∀ c ∈ lead, isBlank c = true) (text : List Char) :
    trim (lead ++ text) = trim text := by
  rw [trim, trim, trimStart, trimStart, List.dropWhile_append_of_pos blank]

theorem trim_append_right {tail : List Char} (blank : ∀ c ∈ tail, isBlank c = true) (text : List Char) :
    trim (text ++ tail) = trim text := by
  have behind : ∀ c ∈ tail.reverse, isBlank c = true := fun c member => blank c (List.mem_reverse.mp member)
  rw [trim, trim, trimStart, trimStart, List.dropWhile_append]
  split
  · next empty =>
    rw [List.isEmpty_iff.mp empty, List.dropWhile_eq_nil_iff.mpr blank]
  · rw [dropEndWhile, List.reverse_append, List.dropWhile_append_of_pos behind, dropEndWhile]

theorem exists_trimStart (text : List Char) :
    ∃ lead, (∀ c ∈ lead, isBlank c = true) ∧ text = lead ++ trimStart text :=
  ⟨text.takeWhile isBlank, List.all_eq_true.mp List.all_takeWhile, List.takeWhile_append_dropWhile.symm⟩

theorem exists_trim (text : List Char) :
    ∃ lead tail, (∀ c ∈ lead, isBlank c = true) ∧ (∀ c ∈ tail, isBlank c = true) ∧
      text = lead ++ trim text ++ tail := by
  obtain ⟨lead, before, whole⟩ := exists_trimStart text
  obtain ⟨tail, behind, rest⟩ := exists_trimStart (trimStart text).reverse
  have kept := congrArg List.reverse rest
  rw [List.reverse_reverse, List.reverse_append] at kept
  refine ⟨lead, tail.reverse, before, fun c member => behind c (List.mem_reverse.mp member), ?_⟩
  rw [List.append_assoc, trim, dropEndWhile]
  exact whole.trans (congrArg _ kept)

theorem mem_of_mem_trim {text : List Char} {c : Char} (member : c ∈ trim text) : c ∈ text := by
  obtain ⟨lead, tail, _, _, whole⟩ := exists_trim text
  rw [whole]
  simp [member]

theorem trim_eq_nil_iff {text : List Char} : trim text = [] ↔ ∀ c ∈ text, isBlank c = true := by
  constructor
  · intro empty
    obtain ⟨lead, tail, before, behind, whole⟩ := exists_trim text
    intro c member
    rw [whole, empty, List.append_nil] at member
    exact (List.mem_append.mp member).elim (before c) (behind c)
  · intro blank
    rw [← List.append_nil text, trim_append_left blank]
    rfl

@[simp] theorem trimmed_trimmed (text : String) : trimmed (trimmed text) = trimmed text := by
  rw [trimmed, trimmed, String.toList_ofList, trim_trim]

theorem trimmed_intercalate {names : List String} (all : ∀ name ∈ names, IsWord name) :
    trimmed (" ".intercalate names) = " ".intercalate names := by
  suffices ends : (∀ c ∈ (" ".intercalate names).toList.head?, isBlank c = false) ∧
      ∀ c ∈ (" ".intercalate names).toList.getLast?, isBlank c = false by
    rw [trimmed, trim_of_ends ends.1 ends.2, String.ofList_toList]
  induction names with
  | nil => simp
  | cons name rest ih =>
    have word := all name List.mem_cons_self
    have others : ∀ other ∈ rest, IsWord other := fun other member => all other (List.mem_cons_of_mem name member)
    cases rest with
    | nil =>
      rw [String.intercalate_singleton]
      exact ⟨fun c member => word.2 c (List.mem_of_mem_head? member),
        fun c member => word.2 c (List.mem_of_getLast? member)⟩
    | cons next more =>
      have filled : name.toList ≠ [] := fun empty => word.1 (by simpa using empty)
      have later : (" ".intercalate (next :: more)).toList ≠ [] := by
        intro empty
        have blank : " ".intercalate (next :: more) = "" := String.toList_eq_nil_iff.mp empty
        have spelled := words_intercalate others
        rw [blank] at spelled
        cases spelled
      have last := (ih others).2
      rw [List.getLast?_eq_some_getLast later] at last
      rw [String.intercalate_cons_cons, String.toList_append, List.getLast?_append,
        List.getLast?_eq_some_getLast later, Option.some_or, String.toList_append, List.append_assoc,
        List.head?_append, List.head?_eq_some_head filled, Option.some_or, ← List.head?_eq_some_head filled]
      exact ⟨fun c member => word.2 c (List.mem_of_mem_head? member), last⟩

end LessonShell.Text

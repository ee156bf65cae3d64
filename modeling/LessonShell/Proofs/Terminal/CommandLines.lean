import LessonShell.Proofs.Shell.EchoRequests
import LessonShell.Proofs.Terminal.Outcomes

/-! The two readings of a command line. It is cut into words, the first of which calls a command that
receives the others; and `echo` takes what follows the first word as it was typed. Both cut the line at
the same place, so the words of that text are the arguments, whatever blanks there are. -/
namespace LessonShell

namespace Text
variable {text field rest : List Char}

/-- The text begins, after blanks, with `field`. Blanks stand between it and `rest`, which begins with
none; they are missing only if nothing follows. -/
structure FirstWord (text field rest : List Char) : Prop where
  parts : ∃ lead gap, text = lead ++ (field ++ (gap ++ rest)) ∧ (∀ c ∈ lead, isBlank c = true) ∧
    (∀ c ∈ gap, isBlank c = true) ∧ (gap = [] → rest = [])
  filled : field ≠ []
  solid : ∀ c ∈ field, isBlank c = false
  front : ∀ c ∈ rest.head?, isBlank c = false

theorem FirstWord.fields_eq (first : FirstWord text field rest) :
    fields isBlank text = field :: fields isBlank rest := by
  obtain ⟨lead, gap, rfl, before, between, apart⟩ := first.parts
  rw [fields_append_left before, fields_field_append first.filled first.solid between apart]

theorem FirstWord.afterWord_eq (first : FirstWord text field rest) : afterWord text = rest := by
  obtain ⟨lead, gap, rfl, before, between, apart⟩ := first.parts
  have start : ∀ c ∈ (field ++ (gap ++ rest)).head?, isBlank c = false := by
    intro c member
    rw [List.head?_append, List.head?_eq_some_head first.filled, Option.some_or, Option.mem_some_iff] at member
    exact first.solid c (member ▸ List.head_mem first.filled)
  have word : ∀ c ∈ field, (!isBlank c) = true := fun c member => by simp [first.solid c member]
  have stop : ∀ c ∈ (gap ++ rest).head?, (!isBlank c) = false := by
    cases gap with
    | nil => simp [apart rfl]
    | cons mark others => simp [between mark List.mem_cons_self]
  rw [afterWord, trimStart, trimStart, dropWhile_front before start, dropWhile_front word stop,
    dropWhile_front between first.front]

theorem FirstWord.unique {other tail : List Char} (first : FirstWord text field rest)
    (second : FirstWord text other tail) : other = field ∧ tail = rest := by
  have same := second.fields_eq.symm.trans first.fields_eq
  exact ⟨(List.cons.inj same).1, second.afterWord_eq.symm.trans first.afterWord_eq⟩

/-- A text has no word, or a first one. -/
theorem firstWord_cases (text : List Char) :
    (fields isBlank text = [] ∧ afterWord text = []) ∨ ∃ field, FirstWord text field (afterWord text) := by
  obtain ⟨⟨lead, word, gap, whole, before, solid, between, wordless, apart⟩, front⟩ := followsWord_afterWord text
  rw [List.append_assoc, List.append_assoc] at whole
  by_cases filled : word = []
  · have none := wordless filled
    refine .inl ⟨?_, none⟩
    rw [whole, filled, none, fields_append_left before, List.nil_append, fields_append_left between, fields_nil]
  · exact .inr ⟨word, ⟨lead, gap, whole, before, between, apart⟩, filled, solid, front⟩

end Text

namespace Terminal
open Text

/-- A line without a word has no text behind one. Any other line begins, after blanks, with a word; behind
it there is nothing, or blanks and then the text that `echo` reads, to the end of the line. Only one word
and one text stand in the line like this. It calls the command of that name, and the words of that text are
the arguments. -/
theorem arguments_follow_name (line : String) :
    words line = [] ∧ afterWord line.toList = [] ∨
    ∃ name args, words line = name :: args ∧ words (String.ofList (afterWord line.toList)) = args ∧
      FirstWord line.toList name.toList (afterWord line.toList) ∧
      (∀ word tail, FirstWord line.toList word tail → word = name.toList ∧ tail = afterWord line.toList) ∧
      calledName line = foldCase name ∧ calledArgs line = args := by
  rcases firstWord_cases line.toList with ⟨wordless, empty⟩ | ⟨word, first⟩
  · exact .inl ⟨by rw [words, wordless, List.map_nil], empty⟩
  · have divided : words line = String.ofList word :: words (String.ofList (afterWord line.toList)) := by
      rw [words, words, first.fields_eq, List.map_cons, String.toList_ofList]
    refine .inr ⟨String.ofList word, _, divided, rfl, ?_, ?_, calledName_of_words divided,
      calledArgs_of_words divided⟩
    · rwa [String.toList_ofList]
    · rw [String.toList_ofList]
      exact fun other tail second => first.unique second

theorem arguments_follow_name_past_wide_blanks :
    words "\u3000 Écho\u2003\ta\u00a0  b " = ["Écho", "a", "b"] ∧
    FirstWord "\u3000 Écho\u2003\ta\u00a0  b ".toList "Écho".toList "a\u00a0  b ".toList := by
  have cut : words "\u3000 Écho\u2003\ta\u00a0  b " = ["Écho", "a", "b"] := by decide
  have read : afterWord "\u3000 Écho\u2003\ta\u00a0  b ".toList = "a\u00a0  b ".toList := by decide
  rcases arguments_follow_name "\u3000 Écho\u2003\ta\u00a0  b " with
    ⟨wordless, -⟩ | ⟨name, args, parts, -, first, -⟩
  · rw [cut] at wordless
    cases wordless
  · rw [cut, List.cons.injEq] at parts
    rw [read, ← parts.1] at first
    exact ⟨cut, first⟩

end Terminal
end LessonShell

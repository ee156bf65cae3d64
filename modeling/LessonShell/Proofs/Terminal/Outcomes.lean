import LessonShell.Proofs.Text.Words
import LessonShell.Terminal

/-! How a submitted line is taken, whatever the commands are. A waiting question answers it, a
blank line is nothing, and any other line calls a command, which runs once the line has been
shown and announced; its outcome says how that command ended. -/
namespace LessonShell.Terminal
variable {C : Type}

/-- The name under which a submitted line is dispatched. -/
def calledName (input : String) : String :=
  Text.foldCase ((Text.words (Text.trimmed input)).headD "")

def calledArgs (input : String) : List String := (Text.words (Text.trimmed input)).tail

theorem calledName_of_words {input word : String} {args : List String}
    (words : Text.words input = word :: args) : calledName input = Text.foldCase word := by
  rw [calledName, Text.words_trimmed, words, List.headD_cons]

theorem calledArgs_of_words {input word : String} {args : List String}
    (words : Text.words input = word :: args) : calledArgs input = args := by
  rw [calledArgs, Text.words_trimmed, words, List.tail_cons]

theorem filled_of_words {input word : String} {args : List String}
    (words : Text.words input = word :: args) : Text.trimmed input ≠ "" := by
  refine Text.trimmed_ne_empty ?_
  rw [words]
  exact List.cons_ne_nil word args

/-- The result of the command that a line calls, and the scene it leaves. -/
def called (terminal : Terminal C) (input : String) :
    Except Failure CommandOutput × Scene (Dialogue C) :=
  (terminal.registry.dispatch (calledName input) (calledArgs input)).run (Text.trimmed input)
    terminal.lesson
    (acknowledge terminal.scene (Text.trimmed input) (calledName input) (calledArgs input))

/-- How the command that a line calls ends. The answer to a question and a blank line call none. -/
def outcome? (terminal : Terminal C) (input : String) : Option (Except Failure CommandOutput) :=
  if terminal.scene.dialogue.isSome ∨ Text.trimmed input = "" then none
  else some (terminal.called input).1

variable {terminal : Terminal C} {input : String}

theorem outcome?_eq_some_iff {result : Except Failure CommandOutput} :
    terminal.outcome? input = some result ↔
      terminal.scene.dialogue = none ∧ Text.trimmed input ≠ "" ∧ (terminal.called input).1 = result := by
  unfold outcome?
  split
  · next silent =>
    simp only [reduceCtorEq, false_iff]
    rintro ⟨idle, filled, -⟩
    rcases silent with active | empty
    · rw [idle] at active
      cases active
    · exact filled empty
  · next spoken =>
    rw [not_or, Option.not_isSome_iff_eq_none] at spoken
    simp only [spoken, Option.some.injEq, ne_eq, not_false_eq_true, true_and]

variable [CustomDialogue C]

/-- The result of an answer to a question, and the scene it leaves; only a masked question sees
the line untrimmed. -/
def answered (terminal : Terminal C) (active : Dialogue C) (input : String) :
    Except Failure (DialogueStep (Dialogue C)) × Scene (Dialogue C) :=
  let line := if active.masked then input else Text.trimmed input
  (active.respond line).run line terminal.lesson { terminal.scene with dialogue := none }

theorem submit_of_active {active : Dialogue C} (found : terminal.scene.dialogue = some active) :
    terminal.submit input =
      terminal.endTurn ((terminal.answered active input).2.resume (terminal.answered active input).1) := by
  rw [submit, found]
  rfl

theorem submit_of_blank (idle : terminal.scene.dialogue = none) (empty : Text.trimmed input = "") :
    terminal.submit input = (terminal, []) := by
  rw [submit, idle]
  exact if_pos empty

theorem submit_of_filled (idle : terminal.scene.dialogue = none) (filled : Text.trimmed input ≠ "") :
    terminal.submit input =
      terminal.endTurn ((terminal.called input).2.conclude (terminal.called input).1) := by
  rw [submit, idle]
  exact if_neg filled

theorem submit_ends (terminal : Terminal C) (input : String) :
    terminal.submit input = (terminal, []) ∨ ∃ scene, terminal.submit input = terminal.endTurn scene := by
  cases waiting : terminal.scene.dialogue with
  | some active => exact .inr ⟨_, submit_of_active waiting⟩
  | none =>
    by_cases empty : Text.trimmed input = ""
    · exact .inl (submit_of_blank waiting empty)
    · exact .inr ⟨_, submit_of_filled waiting empty⟩

end LessonShell.Terminal

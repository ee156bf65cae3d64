import LessonShell.Proofs.Shell.Passing
import LessonShell.Proofs.Terminal.Delivery

/-! Which dialogue gets the next line, whatever the commands and dialogues are. A dialogue that was
started in a turn is the one that waits after it, except where the answering dialogue ends by naming
another in its own place: that one is put in, and the started one is dropped without a word. -/
namespace LessonShell
variable {C : Type}

/-- The dialogue that an answer ends by naming in its own place. -/
def Dialogue.replacement? : Except Failure (DialogueStep (Dialogue C)) → Option (Dialogue C)
  | .ok (.replace next) => some next
  | _ => none

theorem Scene.resume_dialogue {scene : Scene (Dialogue C)} {started : Dialogue C}
    (busy : scene.dialogue = some started) (result : Except Failure (DialogueStep (Dialogue C))) :
    (scene.resume result).dialogue = some ((Dialogue.replacement? result).getD started) := by
  cases result with
  | error failure => exact busy
  | ok step =>
    cases step with
    | proceed same =>
      rw [resume, busy]
      rfl
    | finish => exact busy
    | replace next => rfl

namespace Terminal
variable [CustomDialogue C] {terminal : Terminal C} {input line : String} {α : Type}
  {handler : Program (Dialogue C) α} {scene now : Scene (Dialogue C)} {dialogue : Dialogue C}

/-- What runs in the turn of a line, with the text that it sees and the scene that it finds: a
command, or the answer of the dialogue that was active until then. -/
inductive Handles (terminal : Terminal C) (input : String) :
    {α : Type} → String → Program (Dialogue C) α → Scene (Dialogue C) → Prop
  | command (idle : terminal.scene.dialogue = none) (filled : Text.trimmed input ≠ "") :
    Handles terminal input (Text.trimmed input)
      (terminal.registry.dispatch (calledName input) (calledArgs input))
      (acknowledge terminal.scene (Text.trimmed input) (calledName input) (calledArgs input))
  | answer {active} (waiting : terminal.scene.dialogue = some active) :
    Handles terminal input (if active.masked then input else Text.trimmed input)
      (active.respond (if active.masked then input else Text.trimmed input))
      { terminal.scene with dialogue := none }

/-- The dialogue that the answer to this line, if it is one, names in place of the answering one. -/
def replacement? (terminal : Terminal C) (input : String) : Option (Dialogue C) :=
  terminal.scene.dialogue.bind fun active => Dialogue.replacement? (terminal.answered active input).1

theorem endTurn_dialogue (terminal : Terminal C) (scene : Scene (Dialogue C)) :
    (terminal.endTurn scene).1.scene.dialogue = scene.dialogue := rfl

theorem submit_dialogue_of_started (handles : terminal.Handles input line handler scene)
    (started : (handler.run line terminal.lesson scene).2.dialogue = some dialogue) :
    (terminal.submit input).1.scene.dialogue = some ((terminal.replacement? input).getD dialogue) := by
  cases handles with
  | command idle filled =>
    have ended : (terminal.called input).2.dialogue = some dialogue := by
      unfold called
      exact started
    rw [submit_of_filled idle filled, endTurn_dialogue, (conclude_same _ _).2.2.1, ended,
      replacement?, idle]
    rfl
  | @answer active waiting =>
    have ended : (terminal.answered active input).2.dialogue = some dialogue := by
      unfold answered
      exact started
    rw [submit_of_active waiting, endTurn_dialogue, Scene.resume_dialogue ended, replacement?, waiting]
    rfl

theorem submit_of_waiting (waiting : terminal.scene.dialogue = some dialogue) :
    terminal.submit input = terminal.answer dialogue input := by
  rw [submit, waiting]

/-- A dialogue that a command or an answer starts while none is active is accepted, and every further
one is refused in that turn and changes nothing. After the turn the accepted one waits and gets the
next line, however the command or the answer ended, unless the answer named a replacement: then that
one waits instead. -/
theorem started_dialogue_waits {next : Bool → Program (Dialogue C) α}
    (handles : terminal.Handles input line handler scene)
    (starts : handler.Passes line terminal.lesson scene (.start dialogue next) now)
    (idle : now.dialogue = none) :
    let started := { now with dialogue := some dialogue }
    let after := (terminal.submit input).1
    (Program.startDialogue dialogue).run line terminal.lesson now = (.ok (), started) ∧
    (∀ other further again,
      (next true).Passes line terminal.lesson started (.start other further) again →
        (Program.startDialogue other).run line terminal.lesson again = (.error .dialogueActive, again) ∧
        (next true).Passes line terminal.lesson started (further false) again) ∧
    after.scene.dialogue = some ((terminal.replacement? input).getD dialogue) ∧
    (terminal.replacement? input = none → ∀ later, after.submit later = after.answer dialogue later) := by
  intro started after
  have onward : handler.run line terminal.lesson scene = (next true).run line terminal.lesson started :=
    starts.run_eq.trans (Program.run_start_idle idle dialogue next)
  have waits : after.scene.dialogue = some ((terminal.replacement? input).getD dialogue) := by
    apply submit_dialogue_of_started handles
    rw [onward]
    exact Program.run_dialogue_kept (next true) rfl
  refine ⟨Program.run_startDialogue_idle idle dialogue, ?_, waits, ?_⟩
  · intro other further again passes
    have busy : again.dialogue = some dialogue := passes.dialogue_kept rfl
    exact ⟨Program.run_startDialogue_busy busy other, passes.refused busy⟩
  · intro unreplaced later
    rw [unreplaced] at waits
    exact submit_of_waiting waits

/-- Dialogues of a relay: the first starts the second, and then stays itself or names the third. -/
inductive Relay where
  | first (names : Bool)
  | second
  | third
  deriving DecidableEq

instance : CustomDialogue Relay where
  kind
    | .first _ => "first"
    | .second => "second"
    | .third => "third"
  masked _ := false
  prompt _ := none
  respond
    | .first names, _ => do
      Program.startDialogue (.custom .second)
      return if names then .replace (.custom .third) else .proceed (.custom (.first names))
    | other, _ => return .proceed (.custom other)

/-- The calls that bring a terminal to the first dialogue of a relay. -/
def relayCalls (names : Bool) : List (Call Relay) :=
  [.edit (·.registerCustom (.ofHandler "relay" "" fun _ => do
    Program.startDialogue (.custom (.first names))
    return .silent)), .step (.submit "relay")]

theorem started_dialogue_waits_in_relay : ∃ terminal : Terminal Relay,
    Terminal.new Lesson.default = .ok terminal ∧
    let asked := (terminal.calls (relayCalls false)).1
    let after := (asked.submit "x").1
    asked.scene.dialogue = some (.custom (.first false)) ∧
    after.scene.dialogue = some (.custom .second) ∧
    ∀ later, after.submit later = after.answer (.custom .second) later := by
  obtain ⟨terminal, accepted⟩ := exists_new_default (C := Relay)
  have ran : (Terminal.new (C := Relay) Lesson.default).toOption.map (fun fresh =>
      let asked := (fresh.calls (relayCalls false)).1
      (asked.scene.dialogue, asked.replacement? "x")) =
        some (some (.custom (.first false)), none) := by decide +kernel
  rw [accepted] at ran
  obtain ⟨waiting, unreplaced⟩ := Prod.mk.inj (Option.some.inj ran)
  have handles : (terminal.calls (relayCalls false)).1.Handles "x" _ _ _ := .answer waiting
  obtain ⟨_, _, waits, next⟩ := started_dialogue_waits handles .begin rfl
  rw [unreplaced] at waits
  exact ⟨terminal, accepted, waiting, waits, next unreplaced⟩

/-- A dialogue that was accepted in a turn and does not wait after it. -/
theorem started_dialogue_lost : ∃ terminal : Terminal Relay, Terminal.new Lesson.default = .ok terminal ∧
    let asked := (terminal.calls (relayCalls true)).1
    asked.scene.dialogue = some (.custom (.first true)) ∧
    (∃ next, asked.Handles "x" "x" (Dialogue.respond "x" (.custom (Relay.first true)))
        { asked.scene with dialogue := none } ∧
      (Dialogue.respond "x" (.custom (Relay.first true))).Passes "x" asked.lesson
        { asked.scene with dialogue := none } (.start (.custom .second) next)
        { asked.scene with dialogue := none }) ∧
    (asked.submit "x").1.scene.dialogue = some (.custom .third) ∧
    (asked.submit "x").1.scene.dialogue ≠ some (.custom .second) := by
  obtain ⟨terminal, accepted⟩ := exists_new_default (C := Relay)
  have ran : (Terminal.new (C := Relay) Lesson.default).toOption.map (fun fresh =>
      let asked := (fresh.calls (relayCalls true)).1
      (asked.scene.dialogue, (asked.submit "x").1.scene.dialogue)) =
        some (some (.custom (.first true)), some (.custom .third)) := by decide +kernel
  rw [accepted] at ran
  obtain ⟨waiting, replaced⟩ := Prod.mk.inj (Option.some.inj ran)
  refine ⟨terminal, accepted, waiting, ⟨_, .answer waiting, .begin⟩, replaced, ?_⟩
  rw [replaced]
  decide

end Terminal
end LessonShell

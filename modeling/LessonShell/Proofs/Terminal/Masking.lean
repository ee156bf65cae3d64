import LessonShell.Proofs.Terminal.Restart
import LessonShell.Script

/-! Masked input, whatever the commands and dialogues are. The session notes at the end of a turn
whether the waiting dialogue hides what is typed. A blank line has no such end, but it changes
nothing either, so the note stays right between any two calls. -/
namespace LessonShell.Terminal
variable {C : Type} [CustomDialogue C] {lesson : Lesson}

/-- The session notes whether the waiting question hides what is typed. -/
def NotesMask (terminal : Terminal C) : Prop :=
  terminal.scene.session.passwordMode = terminal.scene.dialogue.any Dialogue.masked

theorem NotesMask.unmasked {before : Terminal C} (notes : NotesMask before)
    (idle : before.scene.dialogue = none) : before.scene.session.passwordMode = false := by
  rw [notes, idle]
  rfl

theorem NotesMask.session_eq {before : Terminal C} (notes : NotesMask before)
    (idle : before.scene.dialogue = none) :
    { before.scene.session with passwordMode := false } = before.scene.session := by
  rw [← notes.unmasked idle]

theorem NotesMask.submit {before : Terminal C} (notes : NotesMask before) (input : String) :
    NotesMask (before.submit input).1 := by
  rcases before.submit_ends input with same | ⟨scene, ended⟩
  · rw [same]
    exact notes
  · rw [ended]
    rfl

theorem NotesMask.take {before : Terminal C} (notes : NotesMask before) (step : Step) :
    NotesMask (before.take step) := by
  cases step with
  | submit line => exact notes.submit line
  | reset =>
    cases loaded : initialFiles before.lesson with
    | ok vfs =>
      rw [Terminal.take, reset_eq_ok loaded]
      rfl
    | error failure =>
      rw [Terminal.take, Terminal.reset, loaded]
      exact notes

theorem notesMask_of_new {terminal : Terminal C} (accepted : Terminal.new lesson = .ok terminal) :
    NotesMask terminal := by
  obtain ⟨_, vfs, _, rfl⟩ := new_eq_ok_iff.mp accepted
  rfl

theorem Opens.notesMask {terminal : Terminal C} (opens : Opens lesson terminal) : NotesMask terminal := by
  obtain ⟨fresh, accepted, same⟩ := opens
  have notes := notesMask_of_new accepted
  rcases same with rfl | rfl <;> exact notes

theorem Opens.notesMask_after {terminal : Terminal C} (opens : Opens lesson terminal) (steps : List Step) :
    NotesMask (terminal.after steps) :=
  after_keeps opens.notesMask (fun _ now next => now.take next) steps

theorem NotesMask.call {before : Terminal C} (notes : NotesMask before) (next : Call C) :
    NotesMask (before.call next).1 := by
  cases next with
  | subscribe => exact notes
  | edit change => exact notes
  | step step =>
    cases step with
    | submit line => exact notes.submit line
    | reset => exact notes.take .reset

theorem NotesMask.calls {before : Terminal C} (notes : NotesMask before) (sequence : List (Call C)) :
    NotesMask (before.calls sequence).1 := by
  induction sequence generalizing before with
  | nil => exact notes
  | cons next rest ih => exact ih (notes.call next)

/-- After any calls on a new terminal the session is in password mode exactly while a dialogue waits
that hides what is typed, and so never while none waits; a reset succeeds and leaves none. -/
theorem password_mode_noted {terminal : Terminal C} (accepted : Terminal.new lesson = .ok terminal)
    (sequence : List (Call C)) :
    let now := (terminal.calls sequence).1
    (now.scene.session.passwordMode = true ↔
      ∃ dialogue, now.scene.dialogue = some dialogue ∧ dialogue.masked = true) ∧
    (now.scene.dialogue = none → now.scene.session.passwordMode = false) ∧
    ∃ again, now.reset = .ok again ∧ again.scene.dialogue = none ∧
      again.scene.session.passwordMode = false := by
  intro now
  have notes : NotesMask now := (notesMask_of_new accepted).calls sequence
  obtain ⟨_, vfs, loaded, rfl⟩ := new_eq_ok_iff.mp accepted
  have about : now.lesson = lesson := calls_lesson _ sequence
  refine ⟨?_, ?_, ?_⟩
  · rw [notes, Option.any_eq_true]
  · intro idle
    rw [notes, idle]
    rfl
  · rw [← about] at loaded
    exact ⟨_, reset_eq_ok loaded, rfl, rfl⟩

/-- A command that pretends to mask, and whose dialogue hides its first answer and fails on the second. -/
private def veil : Command ScriptedDialogue := .ofHandler "veil" "" fun _ => do
  Program.editSession ({ · with passwordMode := true })
  Program.startDialogue (.custom ⟨"veil", [⟨true, none, [], .proceed⟩,
    ⟨false, none, [.fail .command "lost"], .finish⟩], 0⟩)
  return .silent

theorem password_mode_of_failing_dialogue : ∃ terminal : Terminal ScriptedDialogue,
    Terminal.new Lesson.default = .ok terminal ∧
    let asked := (terminal.calls [.edit (·.registerCustom veil), .step (.submit "Veil")]).1
    let failed := (asked.calls [.step (.submit " secret"), .step (.submit "again")]).1
    asked.scene.session.passwordMode = true ∧ failed.scene.session.passwordMode = false := by
  obtain ⟨terminal, accepted⟩ := exists_new_default (C := ScriptedDialogue)
  have ran : (Terminal.new (C := ScriptedDialogue) Lesson.default).toOption.map (fun fresh =>
      let asked := (fresh.calls [.edit (·.registerCustom veil), .step (.submit "Veil")]).1
      let failed := (asked.calls [.step (.submit " secret"), .step (.submit "again")]).1
      (asked.scene.dialogue.map Dialogue.masked, failed.scene.dialogue.isNone)) =
        some (some true, true) := by decide +kernel
  rw [accepted] at ran
  obtain ⟨masked, idle⟩ := Prod.mk.inj (Option.some.inj ran)
  have asked := password_mode_noted accepted [.edit (·.registerCustom veil), .step (.submit "Veil")]
  have failed := password_mode_noted accepted [.edit (·.registerCustom veil), .step (.submit "Veil"),
    .step (.submit " secret"), .step (.submit "again")]
  refine ⟨terminal, accepted, asked.1.mpr ?_, failed.2.1 ?_⟩
  · exact Option.map_eq_some_iff.mp masked
  · exact Option.isNone_iff_eq_none.mp idle

end LessonShell.Terminal

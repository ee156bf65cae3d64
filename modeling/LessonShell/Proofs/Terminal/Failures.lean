import LessonShell.Proofs.Terminal.Masking
import LessonShell.Proofs.Terminal.Questions

/-! Lines that fail. Every check of a standard command comes before its first effect, so a line
whose command fails is shown with its error and leaves all else as it was. -/
namespace LessonShell

section commands
variable {C : Type} {lesson : Lesson} {line name : String} {args : List String}

theorem Effect.of_error {session after : Session} {vfs changed : Vfs} {failure : Failure}
    {prompt : Option Prompt} {events : List Event}
    (effect : Effect lesson line session vfs name args (.error failure) after changed prompt events) :
    failure.kind ≠ .dialogueActive ∧ after = session ∧ changed = vfs ∧ prompt = none := by
  cases effect with
  | refused failure own => exact ⟨own, rfl, rfl, rfl⟩
  | keyRefused request short => exact ⟨nofun, rfl, rfl, rfl⟩

/-- A command that fails leaves the scene as it found it, but for what it announced. -/
theorem Performed.of_error {scene : Scene (Dialogue C)} {failure : Failure}
    {run : Except Failure CommandOutput × Scene (Dialogue C)}
    (performed : Performed lesson line name args scene run) (ended : run.1 = .error failure) :
    failure.kind ≠ .dialogueActive ∧ run.2.session = scene.session ∧ run.2.vfs = scene.vfs ∧
      run.2.dialogue = none ∧ run.2.transcript = scene.transcript := by
  obtain ⟨prompt, events, effect, dialogue, _, entries, printed, unprinted⟩ := performed
  rw [ended] at effect
  obtain ⟨own, session, vfs, rfl⟩ := effect.of_error
  rw [unprinted failure ended, List.append_nil] at printed
  exact ⟨own, session, vfs, dialogue, printed⟩

end commands

namespace Terminal
variable {C : Type} [CustomDialogue C] {lesson : Lesson}

/-- A line whose command fails adds itself and the text of its error to the transcript; the files,
the session and the question slot stay, and the failure is never one of the slot. -/
theorem failure_changes_nothing {terminal : Terminal C} (opens : Opens lesson terminal)
    (steps : List Step) {input : String} {failure : Failure}
    (failed : (terminal.after steps).outcome? input = some (.error failure)) :
    let before := (terminal.after steps).scene
    let after := ((terminal.after steps).submit input).1.scene
    failure.kind ≠ .dialogueActive ∧
    after.transcript = before.transcript ++
      [.command (Text.trimmed input) before.session.user before.session.host,
        .styled failure.message .error] ∧
    after.vfs = before.vfs ∧ after.session = before.session ∧ after.dialogue = before.dialogue := by
  intro before after
  have notes := opens.notesMask_after steps
  have sound := opens.sound.after steps
  obtain ⟨idle, filled, ended⟩ := outcome?_eq_some_iff.mp failed
  have unmasked : before.session.passwordMode = false := by
    rw [notes, idle]
    rfl
  have performed := called_performed sound.registry sound.stands.consistent idle input
  simp only [after]
  rw [submit_of_filled idle filled, ended]
  generalize (terminal.after steps).called input = run at ended performed
  obtain ⟨own, session, vfs, dialogue, printed⟩ := performed.of_error ended
  refine ⟨own, ?_, vfs, ?_, dialogue.trans idle.symm⟩
  · show run.2.transcript ++ [_] = _
    rw [printed]
    exact List.append_assoc ..
  · show { run.2.session with passwordMode := run.2.dialogue.any Dialogue.masked } = before.session
    rw [session, dialogue]
    change { before.session with passwordMode := false } = before.session
    rw [← unmasked]

theorem short_key_changes_nothing : ∃ terminal : Terminal Empty, Opens Lesson.default terminal ∧
    let before := terminal.after [.submit "mkdir keys", .submit "cd keys"]
    let after := (before.submit " echo AAA >> authorized_keys").1
    after.scene.transcript = before.scene.transcript ++
      [.command "echo AAA >> authorized_keys" before.scene.session.user before.scene.session.host,
        .styled "echo: key seems too short" .error] ∧
    after.scene.vfs = before.scene.vfs ∧ after.scene.session = before.scene.session := by
  obtain ⟨fresh, accepted⟩ := exists_new_default (C := Empty)
  let terminal := fresh.editRegistry Registry.addAuthorizedKeysEcho
  have opens : Opens Lesson.default terminal := ⟨fresh, accepted, .inr rfl⟩
  have failing : (Terminal.new (C := Empty) Lesson.default).toOption.map (fun fresh =>
      (((fresh.editRegistry Registry.addAuthorizedKeysEcho).after [.submit "mkdir keys",
        .submit "cd keys"]).outcome? " echo AAA >> authorized_keys").map fun
          | .error failure => some failure
          | .ok _ => none) = some (some (some (.command .shortKey))) := by decide +kernel
  rw [accepted] at failing
  obtain ⟨result, outcome, refused⟩ := Option.map_eq_some_iff.mp (Option.some.inj failing)
  cases result with
  | ok output => cases refused
  | error failure =>
    obtain rfl := Option.some.inj refused
    obtain ⟨_, transcript, vfs, session, _⟩ := failure_changes_nothing opens _ outcome
    have line : Text.trimmed " echo AAA >> authorized_keys" = "echo AAA >> authorized_keys" := by decide
    rw [line] at transcript
    exact ⟨terminal, opens, transcript, vfs, session⟩

end Terminal
end LessonShell

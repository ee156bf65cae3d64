import LessonShell.Proofs.Terminal.Delivery

/-! A new start. What a terminal does never depends on who listens to it, and a reset puts back
all the rest but the commands; so a terminal that was reset cannot be told from a new one that
was given the same commands. -/
namespace LessonShell

/-- The bus with nobody listening and nothing heard. -/
def EventBus.silenced (bus : EventBus) : EventBus := { bus with listeners := 0, delivered := [] }

def Scene.silenced {D : Type} (scene : Scene D) : Scene D := { scene with bus := scene.bus.silenced }

theorem Scene.silenced_emit {D : Type} (scene : Scene D) (event : Event) :
    (scene.emit event).silenced = scene.silenced.emit event := by
  simp [silenced, emit, EventBus.silenced, EventBus.emit]

theorem Program.run_silenced {D α : Type} (program : Program D α) (line : String) (lesson : Lesson)
    (scene : Scene D) : program.run line lesson scene.silenced =
      ((program.run line lesson scene).1, (program.run line lesson scene).2.silenced) := by
  induction program generalizing scene with
  | done value => rfl
  | fail failure => rfl
  | look next ih => exact ih _ scene
  | setSession session next ih => exact ih { scene with session := session }
  | setVfs vfs next ih => exact ih { scene with vfs := vfs }
  | print text style next ih => exact ih (scene.print text style)
  | emit event next ih =>
    rw [run, run, ← Scene.silenced_emit]
    exact ih (scene.emit event)
  | start dialogue next ih =>
    have same : scene.silenced.dialogue = scene.dialogue := rfl
    rw [run, run, same]
    cases scene.dialogue with
    | some active => exact ih false scene
    | none => exact ih true { scene with dialogue := some dialogue }

namespace Terminal
variable {C : Type}

def silenced (terminal : Terminal C) : Terminal C := { terminal with scene := terminal.scene.silenced }

/-- Two terminals that differ at most in who listens to them and in what was heard. -/
def Alike (first second : Terminal C) : Prop := first.silenced = second.silenced

/-- Two terminals in the same state, apart from their commands and their listeners. -/
structure SameState [CustomDialogue C] (first second : Terminal C) : Prop where
  vfs : first.scene.vfs = second.scene.vfs
  session : first.scene.session = second.scene.session
  transcript : first.scene.transcript = second.scene.transcript
  dialogue : first.scene.dialogue = second.scene.dialogue
  prompt : first.prompt = second.prompt

theorem resume_silenced (scene : Scene (Dialogue C)) (result : Except Failure (DialogueStep (Dialogue C))) :
    (scene.resume result).silenced = scene.silenced.resume result := by
  cases result with
  | error failure => rfl
  | ok step => cases step <;> rfl

theorem conclude_silenced (scene : Scene (Dialogue C)) (result : Except Failure CommandOutput) :
    (scene.conclude result).silenced = scene.silenced.conclude result := by
  cases result with
  | error failure => rfl
  | ok output => cases output <;> rfl

theorem called_silenced (terminal : Terminal C) (input : String) : terminal.silenced.called input =
    ((terminal.called input).1, (terminal.called input).2.silenced) := by
  unfold called
  rw [← Program.run_silenced]
  congr 1

variable [CustomDialogue C]

theorem answered_silenced (terminal : Terminal C) (active : Dialogue C) (input : String) :
    terminal.silenced.answered active input =
      ((terminal.answered active input).1, (terminal.answered active input).2.silenced) := by
  unfold answered
  dsimp only
  rw [← Program.run_silenced]
  rfl

theorem endTurn_silenced (terminal : Terminal C) (scene : Scene (Dialogue C)) :
    terminal.silenced.endTurn scene.silenced =
      ((terminal.endTurn scene).1.silenced, (terminal.endTurn scene).2) := rfl

theorem submit_silenced (terminal : Terminal C) (input : String) :
    terminal.silenced.submit input =
      ((terminal.submit input).1.silenced, (terminal.submit input).2) := by
  cases waiting : terminal.scene.dialogue with
  | some active =>
    have still : terminal.silenced.scene.dialogue = some active := waiting
    rw [submit_of_active waiting, submit_of_active still, answered_silenced, ← resume_silenced,
      endTurn_silenced]
  | none =>
    have still : terminal.silenced.scene.dialogue = none := waiting
    by_cases empty : Text.trimmed input = ""
    · rw [submit_of_blank waiting empty, submit_of_blank still empty]
    · rw [submit_of_filled waiting empty, submit_of_filled still empty, called_silenced,
        ← conclude_silenced, endTurn_silenced]

namespace Alike
variable {first second : Terminal C}

theorem submit (alike : Alike first second) (input : String) :
    Alike (first.submit input).1 (second.submit input).1 ∧
      (first.submit input).2 = (second.submit input).2 := by
  have same := congrArg (Terminal.submit · input) alike
  simp only [submit_silenced] at same
  exact Prod.mk.inj same

theorem reset (alike : Alike first second) : Alike (first.take .reset) (second.take .reset) := by
  have silent (terminal : Terminal C) :
      (terminal.take .reset).silenced = (terminal.silenced.take .reset).silenced := by
    have lesson : terminal.silenced.lesson = terminal.lesson := rfl
    rw [take, take, Terminal.reset, Terminal.reset, lesson]
    cases initialFiles terminal.lesson <;> rfl
  unfold Alike
  rw [silent first, silent second, alike]

theorem call (alike : Alike first second) (next : Call C) :
    Alike (first.call next).1 (second.call next).1 ∧ (first.call next).2 = (second.call next).2 := by
  cases next with
  | subscribe => exact ⟨alike, rfl⟩
  | edit change => exact ⟨congrArg (Terminal.editRegistry · change) alike, rfl⟩
  | step step =>
    cases step with
    | submit line => exact alike.submit line
    | reset => exact ⟨alike.reset, rfl⟩

theorem calls (alike : Alike first second) (sequence : List (Call C)) :
    Alike (first.calls sequence).1 (second.calls sequence).1 ∧
      (first.calls sequence).2 = (second.calls sequence).2 := by
  induction sequence generalizing first second with
  | nil => exact ⟨alike, rfl⟩
  | cons next rest ih =>
    obtain ⟨now, events⟩ := alike.call next
    obtain ⟨last, later⟩ := ih now
    exact ⟨last, congrArg₂ (· ++ ·) events later⟩

theorem sameState (alike : Alike first second) : SameState first second := by
  have same : first.silenced = second.silenced := alike
  have scene : first.silenced.scene = second.silenced.scene := congrArg Terminal.scene same
  have prompt : first.silenced.prompt = second.silenced.prompt := congrArg Terminal.prompt same
  have vfs := congrArg Scene.vfs scene
  have session := congrArg Scene.session scene
  have transcript := congrArg Scene.transcript scene
  have dialogue := congrArg Scene.dialogue scene
  exact ⟨vfs, session, transcript, dialogue, prompt⟩

end Alike

theorem submit_lesson (terminal : Terminal C) (input : String) :
    (terminal.submit input).1.lesson = terminal.lesson := by
  rcases terminal.submit_ends input with same | ⟨scene, ended⟩
  · rw [same]
  · rw [ended]
    rfl

theorem call_lesson (terminal : Terminal C) (next : Call C) :
    (terminal.call next).1.lesson = terminal.lesson := by
  cases next with
  | subscribe => rfl
  | edit change => rfl
  | step step =>
    cases step with
    | submit line => exact submit_lesson terminal line
    | reset =>
      rw [call, take, Terminal.reset]
      cases initialFiles terminal.lesson <;> rfl

theorem calls_lesson (terminal : Terminal C) (sequence : List (Call C)) :
    (terminal.calls sequence).1.lesson = terminal.lesson := by
  induction sequence generalizing terminal with
  | nil => rfl
  | cons next rest ih => exact (ih (terminal.call next).1).trans (call_lesson terminal next)

/-- After any calls a reset succeeds and puts back the state of a new terminal. From there every
later call finds the same state, and every line returns the same events, as on a new terminal
that was given the same commands. -/
theorem restart_is_fresh {lesson : Lesson} {fresh : Terminal C} (accepted : Terminal.new lesson = .ok fresh)
    (early : List (Call C)) :
    let before := (fresh.calls early).1
    let twin := fresh.editRegistry fun _ => before.registry
    ∃ again, before.reset = .ok again ∧ SameState again fresh ∧ ∀ late line,
      SameState (again.calls late).1 (twin.calls late).1 ∧
      ((again.calls late).1.submit line).2 = ((twin.calls late).1.submit line).2 := by
  intro before twin
  obtain ⟨_, vfs, loaded, rfl⟩ := new_eq_ok_iff.mp accepted
  have about : before.lesson = lesson := calls_lesson _ early
  let again : Terminal C := ⟨lesson, before.registry, .opening lesson vfs before.scene.bus.drained⟩
  have returned : before.reset = .ok again := by
    rw [reset, about, loaded]
    rfl
  refine ⟨again, returned, ⟨rfl, rfl, rfl, rfl, rfl⟩, ?_⟩
  intro late line
  have alike : Alike again twin := rfl
  obtain ⟨later, -⟩ := alike.calls late
  exact ⟨later.sameState, (later.submit line).2⟩

private def untilPassphrase : List (Call Empty) :=
  [.edit Registry.addAuthorizedKeysEcho, .subscribe,
    .step (.submit "echo ssh-rsa AAA >> authorized_keys"), .step (.submit "ssh-keygen"), .step (.submit "")]

theorem restart_in_a_question : ∃ fresh : Terminal Empty, Terminal.new Lesson.default = .ok fresh ∧
    let before := (fresh.calls untilPassphrase).1
    before.scene.session.passwordMode = true ∧ before.scene.session.authorized.length = 1 ∧
    ∃ again, before.reset = .ok again ∧ SameState again fresh ∧ ∀ late line,
      ((again.calls late).1.submit line).2 =
        (((fresh.editRegistry fun _ => before.registry).calls late).1.submit line).2 := by
  obtain ⟨fresh, accepted⟩ := exists_new_default (C := Empty)
  have midway : (Terminal.new (C := Empty) Lesson.default).toOption.map (fun fresh =>
      let session := (fresh.calls untilPassphrase).1.scene.session
      (session.passwordMode, session.authorized.length)) = some (true, 1) := by decide +kernel
  rw [accepted] at midway
  obtain ⟨masked, authorized⟩ := Prod.mk.inj (Option.some.inj midway)
  obtain ⟨again, returned, same, later⟩ := restart_is_fresh accepted untilPassphrase
  exact ⟨fresh, accepted, masked, authorized, again, returned, same, fun late line => (later late line).2⟩

end Terminal
end LessonShell

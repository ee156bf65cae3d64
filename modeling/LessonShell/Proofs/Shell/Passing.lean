import LessonShell.Shell.Program

/-! What a program passes on its way. The relation takes one primitive at a time and agrees with
running the program; it gives a name to what happens in the middle of a turn, such as asking for a
dialogue. Once one is active, no program puts another in its place. -/
namespace LessonShell.Program
variable {D α : Type} {line : String} {lesson : Lesson} {program rest : Program D α}
  {scene now : Scene D}

/-- A run of the program comes to a point where `rest` is left to do and the scene is `now`. -/
inductive Passes (line : String) (lesson : Lesson) (program : Program D α) (scene : Scene D) :
    Program D α → Scene D → Prop
  | begin : Passes line lesson program scene program scene
  | look {next now} (before : Passes line lesson program scene (.look next) now) :
    Passes line lesson program scene
      (next ⟨line, now.session, now.vfs, lesson, now.dialogue.isSome⟩) now
  | setSession {session next now} (before : Passes line lesson program scene (.setSession session next) now) :
    Passes line lesson program scene next { now with session := session }
  | setVfs {vfs next now} (before : Passes line lesson program scene (.setVfs vfs next) now) :
    Passes line lesson program scene next { now with vfs := vfs }
  | print {text style next now} (before : Passes line lesson program scene (.print text style next) now) :
    Passes line lesson program scene next (now.print text style)
  | emit {event next now} (before : Passes line lesson program scene (.emit event next) now) :
    Passes line lesson program scene next (now.emit event)
  | refused {dialogue next now active} (before : Passes line lesson program scene (.start dialogue next) now)
    (busy : now.dialogue = some active) : Passes line lesson program scene (next false) now
  | accepted {dialogue next now} (before : Passes line lesson program scene (.start dialogue next) now)
    (idle : now.dialogue = none) :
    Passes line lesson program scene (next true) { now with dialogue := some dialogue }

theorem run_start_busy {active : D} (busy : now.dialogue = some active) (dialogue : D)
    (next : Bool → Program D α) :
    (Program.start dialogue next).run line lesson now = (next false).run line lesson now := by
  rw [run, busy]

theorem run_start_idle (idle : now.dialogue = none) (dialogue : D) (next : Bool → Program D α) :
    (Program.start dialogue next).run line lesson now =
      (next true).run line lesson { now with dialogue := some dialogue } := by
  rw [run, idle]

/-- From every point that it passes, a run ends as it does from the beginning. -/
theorem Passes.run_eq (passes : program.Passes line lesson scene rest now) :
    program.run line lesson scene = rest.run line lesson now := by
  induction passes with
  | begin => rfl
  | look before ih => exact ih
  | setSession before ih => exact ih
  | setVfs before ih => exact ih
  | print before ih => exact ih
  | emit before ih => exact ih
  | refused before busy ih => exact ih.trans (run_start_busy busy _ _)
  | accepted before idle ih => exact ih.trans (run_start_idle idle _ _)

theorem Passes.trans {later : Program D α} {after : Scene D}
    (passes : program.Passes line lesson scene rest now)
    (onward : rest.Passes line lesson now later after) : program.Passes line lesson scene later after := by
  induction onward with
  | begin => exact passes
  | look before ih => exact ih.look
  | setSession before ih => exact ih.setSession
  | setVfs before ih => exact ih.setVfs
  | print before ih => exact ih.print
  | emit before ih => exact ih.emit
  | refused before busy ih => exact ih.refused busy
  | accepted before idle ih => exact ih.accepted idle

/-- What is left when a program has ended in this way. -/
def ended : Except Failure α → Program D α
  | .ok value => .done value
  | .error failure => .fail failure

theorem passes_ended (program : Program D α) (line : String) (lesson : Lesson) (scene : Scene D) :
    program.Passes line lesson scene (ended (program.run line lesson scene).1)
      (program.run line lesson scene).2 := by
  induction program generalizing scene with
  | done value => exact .begin
  | fail failure => exact .begin
  | look next ih => exact (Passes.look .begin).trans (ih _ scene)
  | setSession session next ih => exact (Passes.setSession .begin).trans (ih _)
  | setVfs vfs next ih => exact (Passes.setVfs .begin).trans (ih _)
  | print text style next ih => exact (Passes.print .begin).trans (ih _)
  | emit event next ih => exact (Passes.emit .begin).trans (ih _)
  | start dialogue next ih =>
    cases waiting : scene.dialogue with
    | some active =>
      rw [run_start_busy waiting]
      exact (Passes.refused .begin waiting).trans (ih false scene)
    | none =>
      rw [run_start_idle waiting]
      exact (Passes.accepted .begin waiting).trans (ih true _)

/-- A run ends in a result and a scene exactly if it passes the point where that is left. -/
theorem run_eq_iff_passes {result : Except Failure α} {after : Scene D} :
    program.run line lesson scene = (result, after) ↔
      program.Passes line lesson scene (ended result) after := by
  constructor
  · intro ran
    have last := passes_ended program line lesson scene
    rw [ran] at last
    exact last
  · intro passes
    rw [passes.run_eq]
    cases result <;> rfl

/-- While a dialogue is active, nothing that a program does ends it or replaces it. -/
theorem Passes.dialogue_kept {active : D} (passes : program.Passes line lesson scene rest now)
    (busy : scene.dialogue = some active) : now.dialogue = some active := by
  induction passes with
  | begin => exact busy
  | look before ih => exact ih
  | setSession before ih => exact ih
  | setVfs before ih => exact ih
  | print before ih => exact ih
  | emit before ih => exact ih
  | refused before other ih => exact ih
  | accepted before idle ih =>
    rw [ih] at idle
    cases idle

theorem run_dialogue_kept {active : D} (program : Program D α) (busy : scene.dialogue = some active) :
    (program.run line lesson scene).2.dialogue = some active :=
  (run_eq_iff_passes.mp rfl).dialogue_kept busy

theorem run_startDialogue_busy {active : D} (busy : now.dialogue = some active) (dialogue : D) :
    (startDialogue dialogue).run line lesson now = (.error .dialogueActive, now) := by
  rw [startDialogue, run_start_busy busy]
  rfl

theorem run_startDialogue_idle (idle : now.dialogue = none) (dialogue : D) :
    (startDialogue dialogue).run line lesson now = (.ok (), { now with dialogue := some dialogue }) := by
  rw [startDialogue, run_start_idle idle]
  rfl

end LessonShell.Program

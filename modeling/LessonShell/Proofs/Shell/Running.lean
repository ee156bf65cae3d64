import LessonShell.Terminal

/-! Running programs step by step. A program runs its first part and then, unless that
failed, the rest on the scene it left; each primitive changes the one part of the scene
that it names. -/
namespace LessonShell.Program
variable {D α β : Type} {line : String} {lesson : Lesson} {scene : Scene D}

theorem run_bind (program : Program D α) (rest : α → Program D β) :
    (program >>= rest).run line lesson scene = match program.run line lesson scene with
      | (.ok value, after) => (rest value).run line lesson after
      | (.error failure, after) => (.error failure, after) := by
  change (Program.bind program rest).run line lesson scene = _
  induction program generalizing scene with
  | done value => rfl
  | fail failure => rfl
  | look next ih => exact ih _
  | setSession session next ih => exact ih
  | setVfs vfs next ih => exact ih
  | print text style next ih => exact ih
  | emit event next ih => exact ih
  | start dialogue next ih =>
    simp only [Program.bind, run]
    split
    · exact ih false
    · exact ih true

@[simp] theorem run_pure (value : α) :
    (pure value : Program D α).run line lesson scene = (.ok value, scene) := rfl

@[simp] theorem run_fail_bind (failure : Failure) (rest : α → Program D β) :
    (.fail failure >>= rest : Program D β).run line lesson scene = (.error failure, scene) := rfl

@[simp] theorem run_refuse (cause : Diagnostic) :
    (refuse cause : Program D α).run line lesson scene = (.error (.command cause), scene) := rfl

@[simp] theorem run_refuse_bind (cause : Diagnostic) (rest : α → Program D β) :
    (refuse cause >>= rest : Program D β).run line lesson scene = (.error (.command cause), scene) := rfl

@[simp] theorem run_pure_bind (value : α) (rest : α → Program D β) :
    (pure value >>= rest : Program D β).run line lesson scene = (rest value).run line lesson scene := rfl

@[simp] theorem run_view_bind (rest : View → Program D β) :
    (Program.view >>= rest).run line lesson scene =
      (rest ⟨line, scene.session, scene.vfs, lesson, scene.dialogue.isSome⟩).run line lesson scene := rfl

@[simp] theorem run_say_bind (text : String) (rest : Unit → Program D β) :
    (say text >>= rest).run line lesson scene = (rest ()).run line lesson (scene.print text .normal) := rfl

@[simp] theorem run_sayStyled_bind (text : String) (style : Style) (rest : Unit → Program D β) :
    (sayStyled text style >>= rest).run line lesson scene =
      (rest ()).run line lesson (scene.print text style) := rfl

@[simp] theorem run_announce_bind (event : Event) (rest : Unit → Program D β) :
    (announce event >>= rest).run line lesson scene = (rest ()).run line lesson (scene.emit event) := rfl

@[simp] theorem run_editSession_bind (edit : Session → Session) (rest : Unit → Program D β) :
    (editSession edit >>= rest).run line lesson scene =
      (rest ()).run line lesson { scene with session := edit scene.session } := rfl

@[simp] theorem run_putVfs_bind_ok (value : α) (after : Vfs) (rest : α → Program D β) :
    (putVfs (.ok value, after) >>= rest).run line lesson scene =
      (rest value).run line lesson { scene with vfs := after } := rfl

@[simp] theorem run_putVfs_bind_error (fault : Vfs.Fault) (left : Vfs) (rest : α → Program D β) :
    (putVfs (.error fault, left) >>= rest).run line lesson scene =
      (.error (.vfs fault), { scene with vfs := left }) := rfl

theorem run_startDialogue_bind (idle : scene.dialogue = none) (dialogue : D) (rest : Unit → Program D β) :
    (startDialogue dialogue >>= rest).run line lesson scene =
      (rest ()).run line lesson { scene with dialogue := some dialogue } := by
  rw [run_bind, startDialogue, run, idle]
  rfl

theorem run_sayAll_bind (style : Style) (texts : List String) (rest : Unit → Program D β) :
    (sayAll style texts >>= rest).run line lesson scene = (rest ()).run line lesson
      { scene with transcript := scene.transcript ++ texts.map (Entry.styled · style) } := by
  induction texts generalizing scene with
  | nil => simp [sayAll, run_bind, run]
  | cons text others ih =>
    rw [run_bind, sayAll, run, ← run_bind, ih]
    simp [Scene.print]

end LessonShell.Program

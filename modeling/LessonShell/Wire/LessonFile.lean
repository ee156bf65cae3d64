import LessonShell.Toml.Table
import LessonShell.Wire.Lesson

/-! Lessons as TOML documents. -/
namespace LessonShell.Lesson

/-- A document that is no lesson, or a lesson that is refused. -/
inductive FileFault where
  | unreadable
  | invalid (fault : Fault)
  deriving DecidableEq

/-- The lesson that a document describes, once it has passed its checks. -/
def ofToml (text : String) : Except FileFault Lesson :=
  match (Toml.read text).bind fun fields => ofJson? (.object fields) with
  | none => .error .unreadable
  | some lesson => match lesson.validate with
    | .ok _ => .ok lesson
    | .error fault => .error (.invalid fault)

end LessonShell.Lesson

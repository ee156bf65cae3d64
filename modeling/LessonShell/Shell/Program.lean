import LessonShell.EventBus
import LessonShell.Session
import LessonShell.Shell.Failure
import LessonShell.Transcript

/-! Commands and dialogues as programs over what they may see and do. A program can
look, print, announce events, change the session and the files, and start a dialogue;
it cannot read the transcript, take lines or events back, or close a dialogue. -/
namespace LessonShell

/-- The part of a terminal that a turn may change; `D` is the type of dialogues. -/
structure Scene (D : Type) where
  session : Session
  vfs : Vfs
  transcript : List Entry
  bus : EventBus
  dialogue : Option D
  deriving DecidableEq

structure View where
  line : String
  session : Session
  vfs : Vfs
  lesson : Lesson
  dialogueActive : Bool

inductive Program (D α : Type) where
  | done (value : α)
  | fail (failure : Failure)
  | look (next : View → Program D α)
  | setSession (session : Session) (next : Program D α)
  | setVfs (vfs : Vfs) (next : Program D α)
  | print (text : String) (style : Style) (next : Program D α)
  | emit (event : Event) (next : Program D α)
  /-- Starts a dialogue if none is active, and goes on knowing whether it did. -/
  | start (dialogue : D) (next : Bool → Program D α)

namespace Scene
variable {D : Type}

def print (scene : Scene D) (text : String) (style : Style) : Scene D :=
  { scene with transcript := scene.transcript ++ [.styled text style] }

def emit (scene : Scene D) (event : Event) : Scene D := { scene with bus := scene.bus.emit event }

end Scene

namespace Program
variable {D α β : Type}

/-- The result of a program on a line, and the scene it leaves; a failure undoes nothing. -/
def run (line : String) (lesson : Lesson) : Program D α → Scene D → Except Failure α × Scene D
  | .done value, scene => (.ok value, scene)
  | .fail failure, scene => (.error failure, scene)
  | .look next, scene =>
    run line lesson (next ⟨line, scene.session, scene.vfs, lesson, scene.dialogue.isSome⟩) scene
  | .setSession session next, scene => run line lesson next { scene with session := session }
  | .setVfs vfs next, scene => run line lesson next { scene with vfs := vfs }
  | .print text style next, scene => run line lesson next (scene.print text style)
  | .emit event next, scene => run line lesson next (scene.emit event)
  | .start dialogue next, scene =>
    match scene.dialogue with
    | some _ => run line lesson (next false) scene
    | none => run line lesson (next true) { scene with dialogue := some dialogue }

protected def bind : Program D α → (α → Program D β) → Program D β
  | .done value, rest => rest value
  | .fail failure, _ => .fail failure
  | .look next, rest => .look fun view => (next view).bind rest
  | .setSession session next, rest => .setSession session (next.bind rest)
  | .setVfs vfs next, rest => .setVfs vfs (next.bind rest)
  | .print text style next, rest => .print text style (next.bind rest)
  | .emit event next, rest => .emit event (next.bind rest)
  | .start dialogue next, rest => .start dialogue fun accepted => (next accepted).bind rest

instance : Monad (Program D) where
  pure := .done
  bind := Program.bind

def view : Program D View := .look .done

def say (text : String) : Program D Unit := .print text .normal (.done ())

def sayStyled (text : String) (style : Style) : Program D Unit := .print text style (.done ())

def sayAll (style : Style) : List String → Program D Unit
  | [] => .done ()
  | text :: rest => .print text style (sayAll style rest)

def announce (event : Event) : Program D Unit := .emit event (.done ())

def editSession (edit : Session → Session) : Program D Unit :=
  .look fun view => .setSession (edit view.session) (.done ())

/-- Starts a dialogue, and fails while another one is active. -/
def startDialogue (dialogue : D) : Program D Unit :=
  .start dialogue fun accepted => if accepted then .done () else .fail .dialogueActive

def refuse (cause : Diagnostic) : Program D α := .fail (.command cause)

/-- Goes on with the value of a file operation, or fails with its fault. -/
def ofVfs : Except Vfs.Fault α → Program D α
  | .ok value => .done value
  | .error fault => .fail (.vfs fault)

def ofParse : Except Diagnostic α → Program D α
  | .ok value => .done value
  | .error cause => .fail (.command cause)

/-- Puts the files that an operation leaves in place, and goes on with its value or fails with
its fault. -/
def putVfs (result : Except Vfs.Fault α × Vfs) : Program D α := .setVfs result.2 (ofVfs result.1)

end Program
end LessonShell

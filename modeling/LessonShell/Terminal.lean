import LessonShell.Shell.Echo
import LessonShell.Shell.FileCommands
import LessonShell.Shell.RemoteCommands

/-! The terminal: one lesson, its commands and the scene they act on. A line goes to the
active dialogue if there is one, and to the command it names otherwise. -/
namespace LessonShell

namespace Registry
variable {C : Type}

def addFileCommands (registry : Registry C) : Registry C :=
  [Command.ls, .cd, .pwd, .whoami, .cat, .mkdir, .touch, .mv, .echo, .clear, .exit].foldl register registry

def addRemoteCommands (registry : Registry C) : Registry C :=
  [Command.ssh, .sshKeygen, .sshCopyId].foldl register registry

def addAuthorizedKeysEcho (registry : Registry C) : Registry C :=
  registry.registerCustom .authorizedKeysEcho

def standard : Registry C := empty.addFileCommands.addRemoteCommands

/-- What a command name with its arguments does; `help` is answered from the tables
unless a custom command has that name. -/
def dispatch (registry : Registry C) (name : String) (args : List String) :
    Program (Dialogue C) CommandOutput :=
  if name = "help" ∧ ¬ registry.isCustom "help" then Program.ofParse (registry.help args)
  else match registry.find? name with
    | some command => command.execute args
    | none => Program.refuse (.unknownCommand name)

end Registry

namespace Scene
variable {C : Type}

/-- The scene of a lesson at its start: the welcome line and nothing else shown. -/
def opening (lesson : Lesson) (vfs : Vfs) (bus : EventBus) : Scene (Dialogue C) where
  session := .start lesson
  vfs := vfs
  transcript := (lesson.motdLine?.map Entry.output).toList
  bus := bus
  dialogue := none

/-- Shows how a command ended; each line of its text is an entry of its own. -/
def conclude (scene : Scene (Dialogue C)) : Except Failure CommandOutput → Scene (Dialogue C)
  | .ok (.text text) =>
    { scene with transcript := scene.transcript ++ (Text.splitOn '\n' text).map .output }
  | .ok .silent => scene
  | .ok .clear => { scene with transcript := [] }
  | .error failure => scene.print failure.message .error

/-- Puts the dialogue that goes on in place. One that was started during the answer is
kept, unless the answer names another to replace it. -/
def resume (scene : Scene (Dialogue C)) :
    Except Failure (DialogueStep (Dialogue C)) → Scene (Dialogue C)
  | .ok (.proceed same) => { scene with dialogue := scene.dialogue.or (some same) }
  | .ok .finish => scene
  | .ok (.replace next) => { scene with dialogue := some next }
  | .error failure => scene.print failure.message .error

end Scene

structure Terminal (C : Type) where
  lesson : Lesson
  registry : Registry C
  scene : Scene (Dialogue C)

namespace Terminal
variable {C : Type} [CustomDialogue C]

/-- The files of a lesson, whose home must be a directory among them. -/
def initialFiles (lesson : Lesson) : Except Failure Vfs :=
  match Vfs.ofSnapshot lesson.filesystem with
  | .error breach => .error (.breach breach)
  | .ok vfs => if vfs.isDir lesson.home then .ok vfs else .error (.lesson (.homeMissing lesson.home))

/-- A terminal for a lesson, unless the lesson or its files are inconsistent. -/
def new (lesson : Lesson) : Except Failure (Terminal C) :=
  match lesson.validate with
  | .error fault => .error (.lesson fault)
  | .ok _ => (initialFiles lesson).map fun vfs => ⟨lesson, .standard, .opening lesson vfs .empty⟩

/-- Starts the lesson again; commands and listeners are kept. -/
def reset (terminal : Terminal C) : Except Failure (Terminal C) :=
  (initialFiles terminal.lesson).map fun vfs =>
    { terminal with scene := .opening terminal.lesson vfs terminal.scene.bus.drained }

def subscribe (terminal : Terminal C) : Terminal C :=
  { terminal with scene := { terminal.scene with bus := terminal.scene.bus.subscribe } }

def editRegistry (terminal : Terminal C) (edit : Registry C → Registry C) : Terminal C :=
  { terminal with registry := edit terminal.registry }

/-- Ends a turn: notes whether a masked dialogue waits, and hands the events over. -/
def endTurn (terminal : Terminal C) (scene : Scene (Dialogue C)) : Terminal C × List Event :=
  let session := { scene.session with passwordMode := scene.dialogue.any Dialogue.masked }
  ({ terminal with scene := { scene with session := session, bus := scene.bus.drained } },
    scene.bus.pending)

/-- One answer to the active dialogue; only a masked one sees the line untrimmed. -/
def answer (terminal : Terminal C) (active : Dialogue C) (input : String) : Terminal C × List Event :=
  let line := if active.masked then input else Text.trimmed input
  let scene := { terminal.scene with dialogue := none }
  let (result, after) := (active.respond line).run line terminal.lesson scene
  terminal.endTurn (after.resume result)

/-- The scene once a line has been shown and announced, before it is dispatched. -/
def acknowledge (scene : Scene (Dialogue C)) (line name : String) (args : List String) :
    Scene (Dialogue C) :=
  let session := scene.session
  let shown := { scene with transcript := scene.transcript ++ [Entry.command line session.user session.host] }
  shown.emit (.command name line args session.user session.host)

/-- One command line that is not blank. -/
def perform (terminal : Terminal C) (line : String) : Terminal C × List Event :=
  let name := Text.foldCase ((Text.words line).headD "")
  let args := (Text.words line).tail
  let (result, after) := (terminal.registry.dispatch name args).run line terminal.lesson
    (acknowledge terminal.scene line name args)
  terminal.endTurn (after.conclude result)

/-- Processes one line and returns the events it caused, in order. A blank line without
a dialogue does nothing at all. -/
def submit (terminal : Terminal C) (input : String) : Terminal C × List Event :=
  match terminal.scene.dialogue with
  | some active => terminal.answer active input
  | none =>
    let line := Text.trimmed input
    if line = "" then (terminal, []) else terminal.perform line

/-- The label of the active dialogue, or the shell prompt without one. -/
def prompt (terminal : Terminal C) : String :=
  match terminal.scene.dialogue with
  | some active => active.label?.getD ""
  | none => terminal.scene.session.prompt

def dialogueKind? (terminal : Terminal C) : Option String :=
  terminal.scene.dialogue.map Dialogue.kind

end Terminal
end LessonShell

import LessonShell.Shell.FileRequest
import LessonShell.Terminal

/-! Commands and dialogues of a lesson's own, written as lists of actions. A scripted
dialogue takes its turns one by one and stays with the last. -/
namespace LessonShell

inductive ScriptAction (D : Type) where
  | print (text : String)
  | printStyled (text : String) (style : Style)
  | printLine
  | printArgs
  | printState
  | emit (event : Event)
  | setCwd (path : String)
  | authorize (user host : String)
  | trustHost (host : String)
  | connect (user host : String)
  | disconnect
  | files (request : FileRequest)
  | start (dialogue : D)
  | fail (kind : FailureKind) (text : String)

inductive ScriptNext (D : Type) where
  | proceed
  | replace (dialogue : D)
  | finish

structure ScriptTurn (D : Type) where
  masked : Bool
  prompt : Option String
  actions : List (ScriptAction D)
  next : ScriptNext D

inductive DialogueScript where
  | builtin (prompt : Prompt)
  | scripted (kind : String) (turns : List (ScriptTurn DialogueScript))

/-- A running scripted dialogue; `taken` turns have been answered. -/
structure ScriptedDialogue where
  kind : String
  turns : List (ScriptTurn DialogueScript)
  taken : Nat

namespace DialogueScript

def toDialogue : DialogueScript → Dialogue ScriptedDialogue
  | .builtin prompt => .builtin prompt
  | .scripted kind turns => .custom ⟨kind, turns, 0⟩

end DialogueScript

namespace ScriptAction
open Program

def run (args : List String) :
    ScriptAction DialogueScript → Program (Dialogue ScriptedDialogue) Unit
  | .print text => say text
  | .printStyled text style => sayStyled text style
  | .printLine => do say ("<" ++ (← Program.view).line ++ ">")
  | .printArgs => say (Nat.repr args.length ++ ":" ++ "|".intercalate args)
  | .printState => do
    let view ← Program.view
    let active := if view.dialogueActive then "true" else "false"
    say (view.session.home ++ " " ++ active ++ " " ++ view.session.prompt)
  | .emit event => announce event
  | .setCwd path => editSession ({ · with cwd := path })
  | .authorize user host => editSession (·.authorize user host)
  | .trustHost host => editSession (·.trustHost host)
  | .connect user host => editSession (·.connect user host)
  | .disconnect => editSession Session.disconnect
  | .files request => do
    let view ← Program.view
    let (answer, vfs) := request.perform view.vfs
    .setVfs vfs (.done ())
    match answer with
    | .ok _ => return
    | .error failure => .fail failure
  | .start dialogue => startDialogue dialogue.toDialogue
  | .fail kind text => .fail (.stated kind text)

/-- Runs actions in order; the first failure ends them. -/
def runAll (args : List String) :
    List (ScriptAction DialogueScript) → Program (Dialogue ScriptedDialogue) Unit
  | [] => return
  | action :: rest => do
    action.run args
    runAll args rest

end ScriptAction

namespace ScriptedDialogue

def idleTurn : ScriptTurn DialogueScript := ⟨false, none, [], .finish⟩

def current (dialogue : ScriptedDialogue) : ScriptTurn DialogueScript :=
  dialogue.turns[dialogue.taken]?.getD (dialogue.turns.getLastD idleTurn)

def respond (dialogue : ScriptedDialogue) (input : String) :
    Program (Dialogue ScriptedDialogue) (DialogueStep (Dialogue ScriptedDialogue)) := do
  ScriptAction.runAll [input] dialogue.current.actions
  return match dialogue.current.next with
    | .proceed => .proceed (.custom { dialogue with taken := dialogue.taken + 1 })
    | .replace next => .replace next.toDialogue
    | .finish => .finish

instance : CustomDialogue ScriptedDialogue where
  kind := ScriptedDialogue.kind
  masked dialogue := dialogue.current.masked
  prompt dialogue := dialogue.current.prompt
  respond := respond

end ScriptedDialogue

structure CommandScript where
  actions : List (ScriptAction DialogueScript)
  output : CommandOutput

def CommandScript.run (script : CommandScript) (args : List String) :
    Program (Dialogue ScriptedDialogue) CommandOutput := do
  ScriptAction.runAll args script.actions
  return script.output

end LessonShell

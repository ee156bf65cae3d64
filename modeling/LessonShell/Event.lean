import LessonShell.Text.Pieces

/-! What the engine announces for lesson progress, and the criteria that missions put
on a single announcement. -/
namespace LessonShell

inductive AuthMethod where
  | password
  | key
  deriving DecidableEq

def AuthMethod.text : AuthMethod → String
  | .password => "password"
  | .key => "key"

inductive Event where
  /-- A line was submitted to the shell; announced before it is looked up. -/
  | command (name fullText : String) (args : List String) (actorUser actorHost : String)
  | connected (user host : String) (method : AuthMethod)
  | keysCopied
  | keygenDone
  /-- Text was appended to a file by `echo`. -/
  | fileAppend (target content : String)
  deriving DecidableEq

def Event.kind : Event → String
  | .command .. => "command"
  | .connected .. => "connected"
  | .keysCopied => "keysCopied"
  | .keygenDone => "keygenDone"
  | .fileAppend .. => "fileAppend"

/-- A condition on one event; absent parts accept anything. -/
inductive Criterion where
  | command (name : String)
  | commandText (contains : List String)
  | connected (user : Option String) (method : Option AuthMethod)
  | keysCopied
  | keygenDone
  | fileAppend (target : Option String)
  deriving DecidableEq

/-- Names are compared whole; texts and append targets need only contain what is asked. -/
def Criterion.accepts : Criterion → Event → Bool
  | .command name, .command got .. => name = got
  | .commandText needles, .command _ fullText .. => needles.all (Text.contains fullText)
  | .connected user method, .connected gotUser _ gotMethod =>
    user.all (· = gotUser) && method.all (· = gotMethod)
  | .keysCopied, .keysCopied => true
  | .keygenDone, .keygenDone => true
  | .fileAppend target, .fileAppend got _ => target.all (Text.contains got)
  | _, _ => false

end LessonShell

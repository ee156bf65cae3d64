/-! Lines of the transcript, in the order in which they are shown. -/
namespace LessonShell

inductive Style where
  | normal
  | prompt
  | warning
  | error
  | banner
  deriving DecidableEq

/-- Who wrote a line: a submitted command keeps the identity that submitted it. -/
inductive Role where
  | command (user host : String)
  | output
  deriving DecidableEq

structure Entry where
  role : Role
  text : String
  style : Style
  deriving DecidableEq

namespace Entry

def styled (text : String) (style : Style) : Entry := ⟨.output, text, style⟩

def output (text : String) : Entry := styled text .normal

def command (text user host : String) : Entry := ⟨.command user host, text, .normal⟩

def isCommand (entry : Entry) : Bool :=
  match entry.role with
  | .command .. => true
  | .output => false

end Entry
end LessonShell

/-! Entries of the simulated file system. -/
namespace LessonShell

/-- A directory lists its children in creation order; a file holds text. -/
inductive Node where
  | dir (children : List String)
  | file (content : String)
  deriving DecidableEq

namespace Node

def emptyDir : Node := .dir []

def isDir : Node → Bool
  | .dir _ => true
  | .file _ => false

def isFile (node : Node) : Bool := !node.isDir

end Node
end LessonShell

import LessonShell.Vfs.Consistency

/-! Loading a file system from a map of spelled paths. Ancestors that the map leaves
out are created, and nodes that no list names are appended to their directory. -/
namespace LessonShell

/-- Spelled paths and their nodes; the entries come in the code point order of the spelling. -/
abbrev Snapshot := Std.ExtTreeMap String Node

namespace Vfs

/-- Creates and extends the directories above a path, which is given from its last
segment to its first. -/
def linkUpward (vfs : Vfs) : List String → Except Breach Vfs
  | [] => .ok vfs
  | name :: above =>
    let path : Path := above.reverse
    match vfs.nodes[path]?.getD .emptyDir with
    | .dir children =>
      linkUpward ⟨vfs.nodes.insert path (.dir (listName name children))⟩ above
    | .file _ => .error (.childOfFile path name)

/-- Adds the node itself; a directory that was created earlier gains the listed names. -/
def define (vfs : Vfs) (path : Path) (node : Node) : Except Breach Vfs :=
  match vfs.nodes[path]?, node with
  | none, _ => .ok ⟨vfs.nodes.insert path node⟩
  | some (.dir children), .dir listed =>
    .ok ⟨vfs.nodes.insert path (.dir (listed.foldl (fun names name => listName name names) children))⟩
  | some _, _ => .error (.conflictingEntry path)

def load (vfs : Vfs) (entry : String × Node) : Except Breach Vfs := do
  let path := Path.ofText entry.1
  (← vfs.define path entry.2).linkUpward path.reverse

/-- The file system that a snapshot describes, if it contradicts itself nowhere. -/
def ofSnapshot (snapshot : Snapshot) : Except Breach Vfs := do
  let vfs ← snapshot.toList.foldlM load Vfs.empty
  match vfs.breach? with
  | some breach => .error breach
  | none => .ok vfs

end Vfs
end LessonShell

import LessonShell.Vfs.Basic
import LessonShell.Text.Quoted

/-! The audit of the path map against the child lists, and the walk that follows the
lists. A failed audit is a defect of a snapshot or of the engine, never a user error. -/
namespace LessonShell.Vfs

inductive Breach where
  | rootNotDirectory
  | unnormalizedKey (path : Path)
  | invalidChild (path : Path) (name : String)
  | repeatedChild (path : Path) (name : String)
  | missingChild (path : Path) (name : String)
  | unlisted (path : Path)
  | conflictingEntry (path : Path)
  | childOfFile (path : Path) (name : String)
  deriving DecidableEq

def Breach.message : Breach → String
  | .rootNotDirectory => "root is not a directory"
  | .unnormalizedKey path => "unnormalized key " ++ path.text
  | .invalidChild path name => path.text ++ " lists invalid child name " ++ Text.quoted name
  | .repeatedChild path name => path.text ++ " lists " ++ name ++ " twice"
  | .missingChild path name => path.text ++ " lists missing child " ++ name
  | .unlisted path => path.text ++ " is not listed by its parent"
  | .conflictingEntry path =>
    "snapshot defines " ++ path.text ++ " twice or as both file and directory"
  | .childOfFile path name => path.text ++ " is a file but has child " ++ name

/-- The first fault of a child list, given the names listed before. -/
def childBreach? (vfs : Vfs) (path : Path) (before : List String) : List String → Option Breach
  | [] => none
  | name :: rest =>
    if ¬ IsSegment name then some (.invalidChild path name)
    else if name ∈ before then some (.repeatedChild path name)
    else if path.child name ∉ vfs.nodes then some (.missingChild path name)
    else vfs.childBreach? path (before ++ [name]) rest

def isListed (vfs : Vfs) (path : Path) : Bool :=
  match vfs.nodes[path.parent]? with
  | some (.dir children) => children.contains path.name
  | _ => false

def listingBreach? (vfs : Vfs) (path : Path) : Node → Option Breach
  | .dir children => vfs.childBreach? path [] children
  | .file _ => none

def entryBreach? (vfs : Vfs) (path : Path) (node : Node) : Option Breach :=
  if ¬ path.Normal then some (.unnormalizedKey path)
  else match vfs.listingBreach? path node with
    | some breach => some breach
    | none => if path = Path.root ∨ vfs.isListed path then none else some (.unlisted path)

def breach? (vfs : Vfs) : Option Breach :=
  match vfs.nodes[Path.root]? with
  | some (.dir _) => vfs.entries.findSome? fun (path, node) => vfs.entryBreach? path node
  | _ => some .rootNotDirectory

/-- The nodes at and under `path`, each directory before its children, to a bounded depth. -/
def walkFrom (vfs : Vfs) : Nat → Path → List (Path × Node)
  | 0, _ => []
  | depth + 1, path =>
    match vfs.nodes[path]? with
    | none => []
    | some (.file content) => [(path, .file content)]
    | some (.dir children) =>
      (path, .dir children) :: children.flatMap fun name => vfs.walkFrom depth (path.child name)

/-- All nodes depth first from the root, children in stored order. No path is deeper
than there are nodes, so their number bounds the depth. -/
def walk (vfs : Vfs) : List (Path × Node) := vfs.walkFrom vfs.nodes.size Path.root

end LessonShell.Vfs

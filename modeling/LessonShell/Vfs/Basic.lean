import LessonShell.Node
import LessonShell.Path

/-! The file system: a map from paths to nodes. Directories also list their children,
so each entry is recorded twice; every operation changes both records together, and
returns the file system it leaves also beside a fault. Paths are given as spelled text,
and any spelling of the same segments will do. -/
namespace LessonShell

structure Vfs where
  nodes : Std.ExtTreeMap Path Node Path.order
  deriving DecidableEq

namespace Vfs

inductive Fault where
  | alreadyExists (path : Path)
  | notDirectory (path : Path)
  | noDirectory (path : Path)
  | isDirectory (path : Path)
  | noFile (path : Path)
  | noParent (path : Path)
  | rootStays
  | noPath (path : Path)
  | intoItself (path : Path)
  deriving DecidableEq

def Fault.message : Fault → String
  | .alreadyExists path => "file exists: " ++ path.text
  | .notDirectory path => "not a directory: " ++ path.text
  | .noDirectory path => "no such directory: " ++ path.text
  | .isDirectory path => "is a directory: " ++ path.text
  | .noFile path => "no such file: " ++ path.text
  | .noParent path => "parent directory does not exist: " ++ path.text
  | .rootStays => "cannot move root"
  | .noPath path => "no such path: " ++ path.text
  | .intoItself path => "cannot move " ++ path.text ++ " into itself"

inductive EntryKind where
  | file
  | directory
  deriving DecidableEq

def empty : Vfs := ⟨(∅ : Std.ExtTreeMap Path Node Path.order).insert Path.root .emptyDir⟩

/-- All entries, ordered by the text of their paths. -/
def entries (vfs : Vfs) : List (Path × Node) := vfs.nodes.toList

def get? (vfs : Vfs) (text : String) : Option Node := vfs.nodes[Path.ofText text]?

def has (vfs : Vfs) (text : String) : Bool := (vfs.get? text).isSome

def kind? (vfs : Vfs) (text : String) : Option EntryKind :=
  (vfs.get? text).map fun node => if node.isDir then .directory else .file

def isDir (vfs : Vfs) (text : String) : Bool := vfs.kind? text = some .directory

def isFile (vfs : Vfs) (text : String) : Bool := vfs.kind? text = some .file

/-- Child names of a directory in creation order. -/
def children (vfs : Vfs) (text : String) : Except Fault (List String) :=
  match vfs.get? text with
  | some (.dir children) => .ok children
  | some (.file _) => .error (.notDirectory (Path.ofText text))
  | none => .error (.noDirectory (Path.ofText text))

def read (vfs : Vfs) (text : String) : Except Fault String :=
  match vfs.get? text with
  | some (.file content) => .ok content
  | some (.dir _) => .error (.isDirectory (Path.ofText text))
  | none => .error (.noFile (Path.ofText text))

def siblings (vfs : Vfs) (path : Path) : Except Fault (List String) :=
  match vfs.nodes[path.parent]? with
  | some (.dir children) => .ok children
  | some (.file _) => .error (.notDirectory path.parent)
  | none => .error (.noParent path.parent)

/-- Changes the list of children that a path belongs to, if there is one. -/
def editSiblings (vfs : Vfs) (path : Path) (edit : List String → List String) : Except Fault Unit × Vfs :=
  match vfs.siblings path with
  | .ok children => (.ok (), ⟨vfs.nodes.insert path.parent (.dir (edit children))⟩)
  | .error fault => (.error fault, vfs)

/-- Appends a name unless it is listed already. -/
def listName (name : String) (children : List String) : List String :=
  if name ∈ children then children else children ++ [name]

/-- Adds a node at a path where nothing exists and lists it in its directory. -/
def insertNew (vfs : Vfs) (path : Path) (node : Node) : Except Fault Unit × Vfs :=
  match vfs.editSiblings path (listName path.name) with
  | (.ok (), listed) => (.ok (), ⟨listed.nodes.insert path node⟩)
  | (.error fault, left) => (.error fault, left)

/-- Creates a directory. Its parent must exist and the path must not. -/
def mkdir (vfs : Vfs) (text : String) : Except Fault Unit × Vfs :=
  let path := Path.ofText text
  match vfs.nodes[path]? with
  | some _ => (.error (.alreadyExists path), vfs)
  | none => vfs.insertNew path .emptyDir

/-- Adds a node, and answers that it was created. -/
def create (vfs : Vfs) (path : Path) (node : Node) : Except Fault Bool × Vfs :=
  match vfs.insertNew path node with
  | (.ok (), after) => (.ok true, after)
  | (.error fault, left) => (.error fault, left)

/-- Creates a directory unless there is one; the flag tells whether it was created. -/
def ensureDir (vfs : Vfs) (text : String) : Except Fault Bool × Vfs :=
  let path := Path.ofText text
  match vfs.nodes[path]? with
  | some (.dir _) => (.ok false, vfs)
  | some (.file _) => (.error (.notDirectory path), vfs)
  | none => vfs.create path .emptyDir

/-- Creates or overwrites a file; the flag tells whether it was created. -/
def write (vfs : Vfs) (text content : String) : Except Fault Bool × Vfs :=
  let path := Path.ofText text
  match vfs.nodes[path]? with
  | some (.file _) => (.ok false, ⟨vfs.nodes.insert path (.file content)⟩)
  | some (.dir _) => (.error (.isDirectory path), vfs)
  | none => vfs.create path (.file content)

/-- Creates an empty file where nothing exists; the flag tells whether it was created. -/
def touch (vfs : Vfs) (text : String) : Except Fault Bool × Vfs :=
  let path := Path.ofText text
  match vfs.nodes[path]? with
  | some _ => (.ok false, vfs)
  | none => vfs.create path (.file "")

end Vfs
end LessonShell

import LessonShell.KeyPair
import LessonShell.Shell.Failure
import LessonShell.Vfs.Rename

/-! Requests to a file system as data, with their answers. -/
namespace LessonShell

inductive FileRequest where
  | mkdir (path : String)
  | ensureDir (path : String)
  | touch (path : String)
  | write (path content : String)
  | rename (source target : String)
  | read (path : String)
  | children (path : String)
  | get (path : String)
  | has (path : String)
  | isDir (path : String)
  | isFile (path : String)
  | kind (path : String)
  | audit
  | installKeyPair (home name algorithm comment : String)
  deriving DecidableEq

inductive FileAnswer where
  | nothing
  | flag (value : Bool)
  | text (value : String)
  | names (values : List String)
  | node (value : Option Node)
  | kind (value : Option Vfs.EntryKind)
  | keyPaths (privatePath publicPath : String)
  deriving DecidableEq

namespace FileRequest

/-- The answer to the value of an operation, or its fault, beside the files it leaves. -/
def settle {α : Type} (answer : α → FileAnswer) :
    Except Vfs.Fault α × Vfs → Except Failure FileAnswer × Vfs
  | (.ok value, after) => (.ok (answer value), after)
  | (.error fault, left) => (.error (.vfs fault), left)

def perform (vfs : Vfs) : FileRequest → Except Failure FileAnswer × Vfs
  | .mkdir path => settle (fun _ => .nothing) (vfs.mkdir path)
  | .ensureDir path => settle .flag (vfs.ensureDir path)
  | .touch path => settle .flag (vfs.touch path)
  | .write path content => settle .flag (vfs.write path content)
  | .rename source target => settle (fun _ => .nothing) (vfs.rename source target)
  | .read path => settle .text (vfs.read path, vfs)
  | .children path => settle .names (vfs.children path, vfs)
  | .get path => (.ok (.node (vfs.get? path)), vfs)
  | .has path => (.ok (.flag (vfs.has path)), vfs)
  | .isDir path => (.ok (.flag (vfs.isDir path)), vfs)
  | .isFile path => (.ok (.flag (vfs.isFile path)), vfs)
  | .kind path => (.ok (.kind (vfs.kind? path)), vfs)
  | .audit => match vfs.breach? with
    | some breach => (.error (.breach breach), vfs)
    | none => (.ok .nothing, vfs)
  | .installKeyPair home name algorithm comment =>
    settle (fun (privatePath, publicPath) => .keyPaths privatePath publicPath)
      (KeyPair.install vfs home name algorithm comment)

end FileRequest
end LessonShell

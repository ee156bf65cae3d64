import LessonShell.Vfs.Basic

/-! Moving a node with everything under it. Within one directory the listed name is
replaced where it stands; between two it leaves the first list and ends the second. -/
namespace LessonShell

def Path.relocated (source target path : Path) : Path :=
  if path.isWithin source then target ++ path.drop source.length else path

namespace Vfs

/-- Gives every node at or under `source` its path under `target`. -/
def relocate (vfs : Vfs) (source target : Path) : Vfs :=
  ⟨.ofList (vfs.entries.map fun (path, node) => (Path.relocated source target path, node)) Path.order⟩

/-- Brings the child lists up to date after the nodes have moved. A list that is not found
leaves the nodes where they are now, and a list that was changed before stays changed. -/
def relist (vfs : Vfs) (source target : Path) : Except Fault Unit × Vfs :=
  if source.parent = target.parent then
    vfs.editSiblings target (·.replace source.name target.name)
  else match vfs.editSiblings source (·.filter (· ≠ source.name)) with
    | (.ok (), shortened) => shortened.editSiblings target (· ++ [target.name])
    | (.error fault, left) => (.error fault, left)

def rename (vfs : Vfs) (sourceText targetText : String) : Except Fault Unit × Vfs :=
  let source := Path.ofText sourceText
  let target := Path.ofText targetText
  if source = Path.root then (.error .rootStays, vfs)
  else if source ∉ vfs.nodes then (.error (.noPath source), vfs)
  else if source = target then (.ok (), vfs)
  else if target ∈ vfs.nodes then (.error (.alreadyExists target), vfs)
  else if target.isWithin source then (.error (.intoItself source), vfs)
  else match vfs.siblings target with
    | .error fault => (.error fault, vfs)
    | .ok _ => (vfs.relocate source target).relist source target

end Vfs
end LessonShell

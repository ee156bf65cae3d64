import LessonShell.Json
import LessonShell.Node

/-! Wire form of file system entries, told apart by the field `type`. -/
namespace LessonShell.Node
open Json.Fields

def toJson : Node → Json
  | .dir children => .object [("type", .text "dir"), ("children", .texts children)]
  | .file content => .object [("type", .text "file"), ("content", .text content)]

/-- Children and content may be left out and are then empty. -/
def ofJson? (json : Json) : Option Node := do
  let fields ← json.fields?
  match ← required fields "type" Json.text? with
  | "dir" => return .dir (← defaulted fields "children" [] (Json.list? Json.text?))
  | "file" => return .file (← defaulted fields "content" "" Json.text?)
  | _ => none

end LessonShell.Node

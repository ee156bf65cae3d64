import LessonShell.Json
import LessonShell.Transcript

/-! Wire form of transcript lines. -/
namespace LessonShell
open Json.Fields

namespace Style

def toJson : Style → Json
  | .normal => .text "normal"
  | .prompt => .text "prompt"
  | .warning => .text "warning"
  | .error => .text "error"
  | .banner => .text "banner"

def ofJson? : Json → Option Style
  | .text "normal" => some .normal
  | .text "prompt" => some .prompt
  | .text "warning" => some .warning
  | .text "error" => some .error
  | .text "banner" => some .banner
  | _ => none

end Style

namespace Role

def toJson : Role → Json
  | .command user host =>
    .object [("kind", .text "command"), ("user", .text user), ("host", .text host)]
  | .output => .object [("kind", .text "output")]

def ofJson? (json : Json) : Option Role := do
  let fields ← json.fields?
  match ← required fields "kind" Json.text? with
  | "command" =>
    return .command (← required fields "user" Json.text?) (← required fields "host" Json.text?)
  | "output" => return .output
  | _ => none

end Role

namespace Entry

def toJson (entry : Entry) : Json :=
  .object [("role", entry.role.toJson), ("text", .text entry.text), ("style", entry.style.toJson)]

def ofJson? (json : Json) : Option Entry := do
  let fields ← json.fields?
  return ⟨← required fields "role" Role.ofJson?, ← required fields "text" Json.text?,
    ← required fields "style" Style.ofJson?⟩

end Entry
end LessonShell

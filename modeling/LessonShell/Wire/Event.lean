import LessonShell.Json
import LessonShell.Event

/-! Wire form of events, by the field `type`, and of criteria, by the field `kind`. -/
namespace LessonShell
open Json.Fields

namespace AuthMethod

def toJson : AuthMethod → Json
  | .password => .text "password"
  | .key => .text "key"

def ofJson? : Json → Option AuthMethod
  | .text "password" => some .password
  | .text "key" => some .key
  | _ => none

end AuthMethod

namespace Event

def toJson : Event → Json
  | .command name fullText args actorUser actorHost =>
    .object [("type", .text "command"), ("name", .text name), ("fullText", .text fullText),
      ("args", .texts args), ("actorUser", .text actorUser), ("actorHost", .text actorHost)]
  | .connected user host method =>
    .object [("type", .text "connected"), ("user", .text user), ("host", .text host),
      ("method", method.toJson)]
  | .keysCopied => .object [("type", .text "keysCopied")]
  | .keygenDone => .object [("type", .text "keygenDone")]
  | .fileAppend target content =>
    .object [("type", .text "fileAppend"), ("target", .text target), ("content", .text content)]

def ofJson? (json : Json) : Option Event := do
  let fields ← json.fields?
  match ← required fields "type" Json.text? with
  | "command" =>
    return .command (← required fields "name" Json.text?) (← required fields "fullText" Json.text?)
      (← required fields "args" (Json.list? Json.text?))
      (← required fields "actorUser" Json.text?) (← required fields "actorHost" Json.text?)
  | "connected" =>
    return .connected (← required fields "user" Json.text?) (← required fields "host" Json.text?)
      (← required fields "method" AuthMethod.ofJson?)
  | "keysCopied" => return .keysCopied
  | "keygenDone" => return .keygenDone
  | "fileAppend" =>
    return .fileAppend (← required fields "target" Json.text?) (← required fields "content" Json.text?)
  | _ => none

end Event

namespace Criterion

def methodOrNull : Option AuthMethod → Json
  | some method => method.toJson
  | none => .null

def toJson : Criterion → Json
  | .command name => .object [("kind", .text "command"), ("name", .text name)]
  | .commandText contains => .object [("kind", .text "commandText"), ("contains", .texts contains)]
  | .connected user method =>
    .object [("kind", .text "connected"), ("user", .textOrNull user), ("method", methodOrNull method)]
  | .keysCopied => .object [("kind", .text "keysCopied")]
  | .keygenDone => .object [("kind", .text "keygenDone")]
  | .fileAppend target => .object [("kind", .text "fileAppend"), ("target", .textOrNull target)]

def ofJson? (json : Json) : Option Criterion := do
  let fields ← json.fields?
  match ← required fields "kind" Json.text? with
  | "command" => return .command (← required fields "name" Json.text?)
  | "commandText" => return .commandText (← required fields "contains" (Json.list? Json.text?))
  | "connected" =>
    return .connected (← defaulted fields "user" none (Json.nullable? Json.text?))
      (← defaulted fields "method" none (Json.nullable? AuthMethod.ofJson?))
  | "keysCopied" => return .keysCopied
  | "keygenDone" => return .keygenDone
  | "fileAppend" => return .fileAppend (← defaulted fields "target" none (Json.nullable? Json.text?))
  | _ => none

end Criterion
end LessonShell

import LessonShell.Shell.Dialogue

/-! Commands and the two tables that hold them. Names are looked up without regard to
ASCII case, and a custom command hides the built-in of the same name. -/
namespace LessonShell

inductive CommandOutput where
  | text (text : String)
  | silent
  /-- Asks for an empty transcript. -/
  | clear
  deriving DecidableEq

structure Command (C : Type) where
  name : String
  description : String
  usage : String
  category : String
  execute : List String → Program (Dialogue C) CommandOutput

/-- The name under which a command is found. -/
def Command.key {C : Type} (command : Command C) : String := Text.foldCase command.name

/-- A command of a lesson's own; its name is kept in small letters and is its usage. -/
def Command.ofHandler {C : Type} (name description : String)
    (handler : List String → Program (Dialogue C) CommandOutput) : Command C :=
  ⟨Text.foldCase name, description, Text.foldCase name, "lesson", handler⟩

abbrev CommandTable (C : Type) := Std.ExtTreeMap String (Command C)

structure Registry (C : Type) where
  builtins : CommandTable C
  custom : CommandTable C

namespace CommandTable

/-- Shown names and descriptions, sorted by name. -/
def listing {C : Type} (table : CommandTable C) : List (String × String) :=
  let shown := table.toList.map fun (_, command) => (command.name, command.description)
  (Std.ExtTreeMap.ofList shown : Std.ExtTreeMap String String).toList

end CommandTable

namespace Registry
variable {C : Type}

def empty : Registry C := ⟨∅, ∅⟩

/-- Adds a built-in in place of any other of its name. -/
def register (registry : Registry C) (command : Command C) : Registry C :=
  { registry with builtins := registry.builtins.insert command.key command }

/-- Adds a custom command in place of any other of its name. -/
def registerCustom (registry : Registry C) (command : Command C) : Registry C :=
  { registry with custom := registry.custom.insert command.key command }

/-- The command found under a name in small letters. -/
def find? (registry : Registry C) (key : String) : Option (Command C) :=
  registry.custom[key]?.or registry.builtins[key]?

def isCustom (registry : Registry C) (key : String) : Bool := registry.custom.contains key

/-- The built-ins that no custom command hides. -/
def listBuiltins (registry : Registry C) : List (String × String) :=
  CommandTable.listing (registry.builtins.filter fun key _ => !registry.custom.contains key)

def listCustom (registry : Registry C) : List (String × String) := CommandTable.listing registry.custom

def helpLine (item : String × String) : String :=
  "  " ++ Text.padRight 12 item.1 ++ " " ++ item.2 ++ "\n"

/-- The page that lists every command. -/
def overview (registry : Registry C) : String :=
  let lines (items : List (String × String)) := String.join (items.map helpLine)
  let custom := registry.listCustom
  "Available commands:\n" ++ helpLine ("help", "List available commands") ++
    lines registry.listBuiltins ++
    (if custom.isEmpty then "" else "\nLesson commands:\n" ++ lines custom) ++
    "\nType 'help <command>' for details."

def topicText (name category description usage : String) : String :=
  name ++ " (" ++ category ++ ")\n  " ++ description ++ "\n  Usage: " ++ usage

/-- The answer to `help` with these arguments; only the first one counts. -/
def help (registry : Registry C) : List String → Except Diagnostic CommandOutput
  | [] => .ok (.text registry.overview)
  | topic :: _ =>
    let key := Text.foldCase topic
    if key = "help" then
      .ok (.text (topicText "help" "general" "List available commands" "help [command]"))
    else match registry.find? key with
      | some command =>
        .ok (.text (topicText command.name command.category command.description command.usage))
      | none => .error (.noHelpTopic topic)

end Registry
end LessonShell

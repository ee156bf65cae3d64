import LessonShell.Shell.Registry
import LessonShell.Vfs.Rename

/-! The built-in commands on files and on the session. -/
namespace LessonShell.Command
open Program
variable {C : Type}

/-- A flag with an `a` shows the names that start with a dot. -/
def ls : Command C where
  name := "ls"
  description := "List directory contents"
  usage := "ls [-a]"
  category := "file"
  execute args := do
    let view ← Program.view
    let cwd := view.session.cwd
    let all := args.any fun arg => Text.startsWith arg "-" && Text.contains arg "a"
    match view.vfs.children cwd with
    | .error _ => refuse (.listMissing cwd)
    | .ok names =>
      let shown := names.filter fun name => all || !Text.startsWith name "."
      return if shown.isEmpty then .silent else .text ("  ".intercalate shown)

def setCwd (path : String) : Program (Dialogue C) CommandOutput := do
  editSession ({ · with cwd := path })
  return .silent

/-- Without an argument goes home; `..` leaves the last segment of the path as it is
spelled, unless it is the only one. -/
def cd : Command C where
  name := "cd"
  description := "Change working directory"
  usage := "cd [path|..]"
  category := "file"
  execute args := do
    let view ← Program.view
    let cwd := view.session.cwd
    match args with
    | [] =>
      let home := view.session.home
      if view.vfs.isDir home then setCwd home else refuse (.changeMissing home)
    | arg :: _ =>
      if arg = ".." then
        if 1 < (Path.ofText cwd).length then setCwd (PathText.parent cwd) else return .silent
      else
        let target := PathText.resolve cwd arg
        if view.vfs.isDir target then setCwd target else refuse (.changeMissing arg)

def pwd : Command C where
  name := "pwd"
  description := "Print working directory"
  usage := "pwd"
  category := "file"
  execute _ := do return .text (← Program.view).session.cwd

def whoami : Command C where
  name := "whoami"
  description := "Print the current user name"
  usage := "whoami"
  category := "general"
  execute _ := do return .text (← Program.view).session.user

def cat : Command C where
  name := "cat"
  description := "Display file contents"
  usage := "cat <path>"
  category := "file"
  execute
    | [] => refuse .showNothing
    | arg :: _ => do
      let view ← Program.view
      match view.vfs.get? (PathText.resolve view.session.cwd arg) with
      | some (.file content) => return .text content
      | _ => refuse (.showMissing arg)

/-- Takes a plain name in the working directory, not a path. -/
def mkdir : Command C where
  name := "mkdir"
  description := "Create a directory in the current directory"
  usage := "mkdir <name>"
  category := "file"
  execute
    | [] => refuse .makeNothing
    | name :: _ => do
      if Text.contains name "/" || Text.contains name ".." then refuse .makeComplex
      let view ← Program.view
      let path := PathText.join view.session.cwd name
      if name = "." ∨ view.vfs.has path then refuse (.makeExisting name)
      putVfs (view.vfs.mkdir path)
      return .silent

def touch : Command C where
  name := "touch"
  description := "Create an empty file if it does not exist"
  usage := "touch <path>"
  category := "file"
  execute
    | [] => refuse .touchNothing
    | arg :: _ => do
      let view ← Program.view
      let path := PathText.resolve view.session.cwd arg
      if path = "/" ∨ ¬ view.vfs.isDir (PathText.parent path) then refuse (.touchMissing arg)
      let _ ← putVfs (view.vfs.touch path)
      return .silent

/-- Whether the spelled path `path` is `top` or continues it after a slash. -/
def continues (path top : String) : Bool := path = top || Text.startsWith path (top ++ "/")

def moveInto (view : View) (source target dest : String) : Program (Dialogue C) CommandOutput := do
  let origin := PathText.join view.session.cwd source
  let path := PathText.join target source
  let shown := String.ofList (Text.dropEndWhile (· == '/') dest.toList) ++ "/" ++ source
  if path = origin then refuse (.moveSame source shown)
  if continues target origin then refuse (.moveIntoItself source shown)
  if view.vfs.has path then refuse (.moveExisting source shown)
  putVfs (view.vfs.rename origin path)
  return .silent

def moveTo (view : View) (source target dest : String) : Program (Dialogue C) CommandOutput := do
  if PathText.parent target ≠ view.session.cwd then refuse (.moveNowhere source dest)
  if view.vfs.has target then refuse (.moveExisting source dest)
  putVfs (view.vfs.rename (PathText.join view.session.cwd source) target)
  return .silent

/-- The source must be listed in the working directory and must not hold the home. -/
def mv : Command C where
  name := "mv"
  description := "Rename an entry or move it into a directory"
  usage := "mv <src> <dest>"
  category := "file"
  execute
    | source :: dest :: _ => do
      let view ← Program.view
      let cwd := view.session.cwd
      let names ← ofVfs (view.vfs.children cwd)
      if source ∉ names then refuse (.moveMissing source)
      if continues view.session.home (PathText.join cwd source) then refuse (.moveHome source)
      let target := PathText.resolve cwd dest
      if view.vfs.isDir target then moveInto view source target dest
      else moveTo view source target dest
    | _ => refuse .moveNothing

def clear : Command C where
  name := "clear"
  description := "Clear the terminal"
  usage := "clear"
  category := "general"
  execute _ := return .clear

/-- Ends a login; a local session only says so. -/
def exit : Command C where
  name := "exit"
  description := "Close the remote session"
  usage := "exit"
  category := "network"
  execute _ := do
    let view ← Program.view
    if ¬ view.session.isRemote then return .text "Logout."
    editSession Session.disconnect
    return .text ("Connection to " ++ view.session.host ++ " closed.")

end LessonShell.Command

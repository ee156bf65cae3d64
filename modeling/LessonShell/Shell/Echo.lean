import LessonShell.Shell.Registry

/-! What an `echo` line asks for, and the two commands that answer it. -/
namespace LessonShell

inductive EchoRequest where
  | print (text : String)
  | append (content target : String)
  deriving DecidableEq

namespace EchoRequest

def unquoted (text : List Char) : String :=
  String.ofList (Text.trim (text.filter fun c => c ≠ '"' ∧ c ≠ '\''))

/-- Splits the text after the command word at the first `>>`; a target must follow it. -/
def ofLine (line : String) : Except Diagnostic EchoRequest :=
  let rest := Text.afterWord line.toList
  match Text.cutAt ['>', '>'] rest with
  | none => .ok (.print (unquoted rest))
  | some (content, target) =>
    match Text.trim target with
    | [] => .error .appendNowhere
    | name => .ok (.append (unquoted content) (String.ofList name))

end EchoRequest

namespace Command
open Program
variable {C : Type}

/-- Prints, or announces the append; no file is changed. -/
def echo : Command C where
  name := "echo"
  description := "Print text, or append it to a file with >>"
  usage := "echo <text> [>> target]"
  category := "text"
  execute _ := do
    let view ← Program.view
    match ← ofParse (EchoRequest.ofLine view.line) with
    | .print text => return .text text
    | .append content target =>
      announce (.fileAppend target content)
      return .silent

/-- An `echo` that takes an append to `authorized_keys` as installing a key for the
present identity, if the key is longer than ten characters. -/
def authorizedKeysEcho : Command C where
  name := "echo"
  description := "Print text, or append it to a file with >> (installs authorized keys)"
  usage := "echo <text> [>> ~/.ssh/authorized_keys]"
  category := "lesson"
  execute _ := do
    let view ← Program.view
    match ← ofParse (EchoRequest.ofLine view.line) with
    | .print text => return .text text
    | .append content target =>
      announce (.fileAppend target content)
      if ¬ Text.contains target "authorized_keys" then return .silent
      if content.toList.length ≤ 10 then refuse .shortKey
      editSession fun session => session.authorize session.user session.host
      announce .keysCopied
      return .silent

end Command
end LessonShell

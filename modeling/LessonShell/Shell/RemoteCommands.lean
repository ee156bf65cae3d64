import LessonShell.Shell.Registry

/-! The simulated network commands. Each checks its operand against the one target of
the lesson, and starts a dialogue where a secret or a confirmation is needed. -/
namespace LessonShell

/-- The operand and the port of a command line; later operands are ignored. -/
structure RemoteOperands where
  target : Option String
  port : Option UInt16
  deriving DecidableEq

namespace RemoteOperands

/-- Decimal digits after an optional plus sign, with a value from 1 to 65535. -/
def readPort (raw : String) : Except Diagnostic UInt16 :=
  let digits := (Text.stripStart? raw "+").getD raw |>.toList
  let value := digits.foldl (fun value digit => 10 * value + (digit.toNat - '0'.toNat)) 0
  if ¬ digits.isEmpty ∧ digits.all Char.isDigit ∧ 1 ≤ value ∧ value ≤ 65535 then
    .ok (UInt16.ofNat value)
  else .error (.badPort raw)

/-- Reads `-p N`, `-pN` and the operand; other flags are ignored and the last port counts. -/
def readFrom (command : String) (found : RemoteOperands) :
    List String → Except Diagnostic RemoteOperands
  | [] => .ok found
  | arg :: rest =>
    if arg = "-p" then match rest with
      | [] => .error (.portMissing command)
      | raw :: others => match readPort raw with
        | .ok port => readFrom command { found with port := some port } others
        | .error cause => .error cause
    else match Text.stripStart? arg "-p" with
      | some raw => match readPort raw with
        | .ok port => readFrom command { found with port := some port } rest
        | .error cause => .error cause
      | none =>
        if Text.startsWith arg "-" then readFrom command found rest
        else readFrom command { found with target := found.target.or (some arg) } rest

def read (command : String) (args : List String) : Except Diagnostic RemoteOperands :=
  readFrom command ⟨none, none⟩ args

/-- A user and a host around exactly one `@`. -/
def identity? (operand : String) : Option (String × String) :=
  match Text.splitOn '@' operand with
  | [user, host] => if user = "" ∨ host = "" then none else some (user, host)
  | _ => none

/-- The user and host of an operand that names the target on its port; 22 is the port
of a line that gives none. -/
def reach (target : Target) (operand : String) (port : Option UInt16) :
    Except Unreachable (String × String) :=
  let port := port.getD 22
  match identity? operand with
  | none => .error .badFormat
  | some (user, host) =>
    if host ≠ target.host then .error (.timedOut host port)
    else if port ≠ target.port then .error (.refused host port)
    else .ok (user, host)

end RemoteOperands

namespace Command
open Program
variable {C : Type}

/-- A login by key if the target has ours; otherwise the host question or the password. -/
def login (user host : String) : Program (Dialogue C) CommandOutput := do
  let view ← Program.view
  let target := view.lesson.target
  if view.session.isAuthorized user host then
    say "Authenticated using public key."
    completeLogin user host .key
    return .silent
  if target.confirmHostKey && !view.session.knowsHost host then
    sayStyled ("The authenticity of host '" ++ host ++ " (" ++ host ++ ")' can't be established.") .warning
    sayStyled ("ECDSA key fingerprint is " ++ target.hostKeyFingerprint ++ ".") .warning
    sayStyled "Are you sure you want to continue connecting (yes/no/[fingerprint])?" .prompt
    startDialogue (.builtin (.hostKey user host))
    return .silent
  sayStyled (user ++ "@" ++ host ++ "'s password:") .prompt
  startDialogue (.builtin (.password .login user host))
  return .silent

def ssh : Command C where
  name := "ssh"
  description := "Log into the lesson host"
  usage := "ssh [-p port] user@host"
  category := "network"
  execute args := do
    let operands ← ofParse (RemoteOperands.read "ssh" args)
    let some operand := operands.target | refuse .loginUsage
    let view ← Program.view
    match RemoteOperands.reach view.lesson.target operand operands.port with
    | .error cause => refuse (.loginUnreachable operand cause)
    | .ok (user, host) => login user host

/-- The algorithm after the last `-t`, or `found` where there is none. -/
def keyAlgorithm (found : String) : List String → Except Diagnostic String
  | [] => .ok found
  | arg :: rest =>
    if arg = "-t" then match rest with
      | [] => .error .keyTypeMissing
      | algorithm :: others => keyAlgorithm algorithm others
    else keyAlgorithm found rest

def sshKeygen : Command C where
  name := "ssh-keygen"
  description := "Generate a key pair under ~/.ssh"
  usage := "ssh-keygen [-t rsa|ed25519|ecdsa]"
  category := "network"
  execute args := do
    let algorithm ← ofParse (keyAlgorithm "rsa" args)
    if algorithm ∉ ["rsa", "ed25519", "ecdsa"] then refuse (.keyTypeUnknown algorithm)
    let view ← Program.view
    if view.dialogueActive then .fail .dialogueActive
    let path := Prompt.keyPath view.session.home ("id_" ++ algorithm)
    say ("Generating public/private " ++ algorithm ++ " key pair.")
    sayStyled ("Enter file in which to save the key (" ++ path ++ "):") .prompt
    startDialogue (.builtin (Prompt.newKeygen algorithm))
    return .silent

/-- Announces the key, then asks for the password unless the target has the key. -/
def installKey (publicKey user host : String) : Program (Dialogue C) CommandOutput := do
  let view ← Program.view
  let source := PathText.join (KeyPair.directory view.session.home) publicKey
  say ("/usr/bin/ssh-copy-id: INFO: Source of key(s) to be installed: \"" ++ source ++ "\"")
  if view.session.isAuthorized user host then
    sayStyled
      "/usr/bin/ssh-copy-id: WARNING: All keys were skipped because they already exist on the remote system."
      .warning
    return .silent
  sayStyled (user ++ "@" ++ host ++ "'s password:") .prompt
  startDialogue (.builtin (.password .copyId user host))
  return .silent

def sshCopyId : Command C where
  name := "ssh-copy-id"
  description := "Install your public key on the lesson host"
  usage := "ssh-copy-id [-p port] user@host"
  category := "network"
  execute args := do
    let view ← Program.view
    let some publicKey := KeyPair.find? view.vfs view.session.home | refuse .installWithoutKey
    let operands ← ofParse (RemoteOperands.read "ssh-copy-id" args)
    let some operand := operands.target | refuse .installUsage
    match RemoteOperands.reach view.lesson.target operand operands.port with
    | .error cause => refuse (.installUnreachable operand cause)
    | .ok (user, host) => installKey publicKey user host

end Command
end LessonShell

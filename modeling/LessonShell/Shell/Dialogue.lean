import LessonShell.KeyPair
import LessonShell.Shell.Program
import LessonShell.Text.Blank

/-! Dialogues: the built-in questions for passwords, host keys and key generation, and
those of a lesson's own, which are any type with the class `CustomDialogue`. -/
namespace LessonShell

inductive DialogueStep (D : Type) where
  | proceed (dialogue : D)
  | finish
  | replace (dialogue : D)

inductive PasswordPurpose where
  | login
  | copyId
  deriving DecidableEq

inductive KeygenStep where
  | file
  | passphrase
  | confirm
  deriving DecidableEq

inductive Prompt where
  | password (purpose : PasswordPurpose) (user host : String)
  | hostKey (user host : String)
  | keygen (step : KeygenStep) (algorithm keyName : String)
  deriving DecidableEq

inductive Dialogue (C : Type) where
  | builtin (prompt : Prompt)
  | custom (dialogue : C)
  deriving DecidableEq

/-- Dialogues of a lesson's own. Masked input is delivered as it was typed. -/
class CustomDialogue (C : Type) where
  kind : C → String
  masked : C → Bool
  prompt : C → Option String
  respond : C → String → Program (Dialogue C) (DialogueStep (Dialogue C))

instance : CustomDialogue Empty where
  kind := nofun
  masked := nofun
  prompt := nofun
  respond := nofun

/-- Prints the login banner, takes over the identity and announces the connection. -/
def Program.completeLogin {D : Type} (user host : String) (method : AuthMethod) : Program D Unit := do
  let view ← Program.view
  Program.sayAll .banner view.lesson.loginBanner
  Program.say ("Last login: Tue Oct  3 10:12:45 2023 from " ++ view.lesson.target.clientAddress)
  Program.editSession (·.connect user host)
  Program.announce (.connected user host method)

namespace Prompt
open Program

/-- The wizard at its first question; the key is named for its algorithm. -/
def newKeygen (algorithm : String) : Prompt := .keygen .file algorithm ("id_" ++ algorithm)

def kind : Prompt → String
  | .password .login .. => "password"
  | .password .copyId .. => "copy-id-password"
  | .hostKey .. => "host-key"
  | .keygen .. => "ssh-keygen"

def masked : Prompt → Bool
  | .password .. => true
  | .hostKey .. => false
  | .keygen step .. => step ≠ .file

def label? : Prompt → Option String
  | .password .. => some "password:"
  | _ => none

def accepts (target : Target) : PasswordPurpose → String → String → Bool
  | .login, user, secret => target.verifyLogin user secret
  | .copyId, user, secret => target.verifyPassword user secret

def keyPath (home keyName : String) : String := PathText.join (KeyPair.directory home) keyName

/-- The key name that an answer asks for: its last segment, or the present name where
that is no proper name. -/
def chosenName (present answer : String) : String :=
  let kept := String.ofList (Text.dropEndWhile (· == '/') answer.toList)
  let name := PathText.fileName kept
  if name = "" ∨ name = "." ∨ name = ".." then present else name

variable {C : Type}

/-- One secret settles the prompt either way. -/
def respondPassword (purpose : PasswordPurpose) (user host input : String) :
    Program (Dialogue C) (DialogueStep (Dialogue C)) := do
  let view ← Program.view
  if ¬ accepts view.lesson.target purpose user input then
    sayStyled "Permission denied (publickey,password)." .error
    return .finish
  match purpose with
  | .login => completeLogin user host .password
  | .copyId =>
    sayAll .normal ["", "Number of key(s) added: 1", "",
      "Now try logging into the machine, with:   \"ssh '" ++ user ++ "@" ++ host ++ "'\"",
      "and check to make sure that only the key(s) you wanted were added."]
    editSession (·.authorize user host)
    announce .keysCopied
  return .finish

/-- Only `yes`, `no` and the fingerprint settle the question. -/
def respondHostKey (user host input : String) :
    Program (Dialogue C) (DialogueStep (Dialogue C)) := do
  let view ← Program.view
  say input
  if Text.foldCase input = "yes" ∨ input = view.lesson.target.hostKeyFingerprint then
    sayStyled ("Warning: Permanently added '" ++ host ++ "' (ECDSA) to the list of known hosts.") .warning
    editSession (·.trustHost host)
    sayStyled (user ++ "@" ++ host ++ "'s password:") .prompt
    return .replace (.builtin (.password .login user host))
  if Text.foldCase input = "no" then
    sayStyled "Host key verification failed." .error
    return .finish
  sayStyled "Please type 'yes', 'no' or the fingerprint:" .prompt
  return .proceed (.builtin (.hostKey user host))

/-- The last answer of the wizard writes the keys; what was written before a fault stays. -/
def generateKeys (algorithm keyName : String) :
    Program (Dialogue C) (DialogueStep (Dialogue C)) := do
  say ""
  let view ← Program.view
  let comment := view.session.user ++ "@" ++ view.session.host
  let (privatePath, publicPath) ← putVfs (KeyPair.install view.vfs view.session.home keyName algorithm comment)
  say ("Your identification has been saved in " ++ privatePath)
  say ("Your public key has been saved in " ++ publicPath)
  say "The key fingerprint is:"
  say ("SHA256:wF5... " ++ comment)
  announce .keygenDone
  return .finish

def respondKeygen (algorithm keyName input : String) :
    KeygenStep → Program (Dialogue C) (DialogueStep (Dialogue C))
  | .file => do
    let view ← Program.view
    let answer := Text.trimmed input
    say (if answer = "" then keyPath view.session.home keyName else answer)
    sayStyled "Enter passphrase (empty for no passphrase):" .prompt
    return .proceed (.builtin (.keygen .passphrase algorithm (chosenName keyName answer)))
  | .passphrase => do
    say ""
    sayStyled "Enter same passphrase again:" .prompt
    return .proceed (.builtin (.keygen .confirm algorithm keyName))
  | .confirm => generateKeys algorithm keyName

def respond (input : String) : Prompt → Program (Dialogue C) (DialogueStep (Dialogue C))
  | .password purpose user host => respondPassword purpose user host input
  | .hostKey user host => respondHostKey user host input
  | .keygen step algorithm keyName => respondKeygen algorithm keyName input step

end Prompt

namespace Dialogue
variable {C : Type} [CustomDialogue C]

def kind : Dialogue C → String
  | .builtin prompt => prompt.kind
  | .custom dialogue => CustomDialogue.kind dialogue

def masked : Dialogue C → Bool
  | .builtin prompt => prompt.masked
  | .custom dialogue => CustomDialogue.masked dialogue

def label? : Dialogue C → Option String
  | .builtin prompt => prompt.label?
  | .custom dialogue => CustomDialogue.prompt dialogue

def respond (input : String) : Dialogue C → Program (Dialogue C) (DialogueStep (Dialogue C))
  | .builtin prompt => prompt.respond input
  | .custom dialogue => CustomDialogue.respond dialogue input

end Dialogue
end LessonShell

import LessonShell.Lesson

/-! Failures of commands, dialogues and lessons, and the texts that show them. -/
namespace LessonShell

inductive Unreachable where
  | badFormat
  | timedOut (host : String) (port : UInt16)
  | refused (host : String) (port : UInt16)
  deriving DecidableEq

def Unreachable.message (operand : String) : Unreachable → String
  | .badFormat => "ssh: Could not resolve hostname " ++ operand ++ ": Name or service not known"
  | .timedOut host port =>
    "ssh: connect to host " ++ host ++ " port " ++ Nat.repr port.toNat ++ ": Connection timed out"
  | .refused host port =>
    "ssh: connect to host " ++ host ++ " port " ++ Nat.repr port.toNat ++ ": Connection refused"

inductive Diagnostic where
  | unknownCommand (name : String)
  | noHelpTopic (name : String)
  | listMissing (cwd : String)
  | changeMissing (path : String)
  | showNothing
  | showMissing (path : String)
  | makeNothing
  | makeComplex
  | makeExisting (name : String)
  | touchNothing
  | touchMissing (path : String)
  | moveNothing
  | moveMissing (source : String)
  | moveHome (source : String)
  | moveSame (source shown : String)
  | moveIntoItself (source shown : String)
  | moveNowhere (source shown : String)
  | moveExisting (source shown : String)
  | appendNowhere
  | shortKey
  | badPort (text : String)
  | portMissing (command : String)
  | loginUsage
  | loginUnreachable (operand : String) (cause : Unreachable)
  | keyTypeMissing
  | keyTypeUnknown (algorithm : String)
  | installUsage
  | installWithoutKey
  | installUnreachable (operand : String) (cause : Unreachable)
  deriving DecidableEq

def Diagnostic.message : Diagnostic → String
  | .unknownCommand name => name ++ ": command not found"
  | .noHelpTopic name => "help: no help topics match '" ++ name ++ "'"
  | .listMissing cwd => "ls: cannot access '" ++ cwd ++ "': No such file or directory"
  | .changeMissing path => "bash: cd: " ++ path ++ ": No such file or directory"
  | .showNothing => "cat: missing operand"
  | .showMissing path => "cat: " ++ path ++ ": No such file or directory"
  | .makeNothing => "mkdir: missing operand"
  | .makeComplex => "mkdir: complex paths not supported in this lesson"
  | .makeExisting name => "mkdir: cannot create directory '" ++ name ++ "': File exists"
  | .touchNothing => "touch: missing file operand"
  | .touchMissing path => "touch: cannot touch '" ++ path ++ "': No such file or directory"
  | .moveNothing => "mv: missing source or destination"
  | .moveMissing source => "mv: cannot stat '" ++ source ++ "': No such file or directory"
  | .moveHome source => "mv: cannot move '" ++ source ++ "': Device or resource busy"
  | .moveSame source shown => "mv: '" ++ source ++ "' and '" ++ shown ++ "' are the same file"
  | .moveIntoItself source shown =>
    "mv: cannot move '" ++ source ++ "' to a subdirectory of itself, '" ++ shown ++ "'"
  | .moveNowhere source shown =>
    "mv: cannot move '" ++ source ++ "' to '" ++ shown ++ "': No such file or directory"
  | .moveExisting source shown =>
    "mv: cannot move '" ++ source ++ "' to '" ++ shown ++ "': File exists"
  | .appendNowhere => "bash: syntax error near unexpected token \x60newline'"
  | .shortKey => "echo: key seems too short"
  | .badPort text => "Bad port '" ++ text ++ "'"
  | .portMissing command => command ++ ": option requires an argument -- p"
  | .loginUsage => "usage: ssh [-p port] user@host"
  | .loginUnreachable operand cause => cause.message operand
  | .keyTypeMissing => "ssh-keygen: option requires an argument -- t"
  | .keyTypeUnknown algorithm => "unknown key type " ++ algorithm
  | .installUsage => "usage: ssh-copy-id [-p port] user@host"
  | .installWithoutKey =>
    "ERROR: No identity found. Run 'ssh-keygen' first to generate your keys."
  | .installUnreachable operand cause =>
    "/usr/bin/ssh-copy-id: ERROR: " ++ cause.message operand

inductive FailureKind where
  | command
  | vfs
  | config
  | invariant
  | dialogueActive
  deriving DecidableEq

/-- The text of a failure; commands and file operations speak for themselves. -/
def FailureKind.announce : FailureKind → String → String
  | .command, detail => detail
  | .vfs, detail => detail
  | .config, detail => "config error: " ++ detail
  | .invariant, detail => "VFS invariant violated: " ++ detail
  | .dialogueActive, _ => "another interactive prompt is already active"

inductive Failure where
  | command (cause : Diagnostic)
  | vfs (cause : Vfs.Fault)
  | lesson (cause : Lesson.Fault)
  | breach (cause : Vfs.Breach)
  | dialogueActive
  /-- A failure that a lesson's own command words itself. -/
  | stated (kind : FailureKind) (text : String)
  deriving DecidableEq

namespace Failure

def kind : Failure → FailureKind
  | .command _ => .command
  | .vfs _ => .vfs
  | .lesson _ => .config
  | .breach _ => .invariant
  | .dialogueActive => .dialogueActive
  | .stated kind _ => kind

def detail : Failure → String
  | .command cause => cause.message
  | .vfs cause => cause.message
  | .lesson cause => cause.message
  | .breach cause => cause.message
  | .dialogueActive => ""
  | .stated _ text => text

def message (failure : Failure) : String := failure.kind.announce failure.detail

end Failure
end LessonShell

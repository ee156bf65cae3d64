import LessonShell.Event
import LessonShell.Vfs.Snapshot

/-! A lesson: the local identity, the one remote target with its logins, the initial
files and the missions. Every part has a default, so a lesson may say nothing at all. -/
namespace LessonShell

/-- A login of the target; without a password any secret is right. -/
structure Account where
  user : String
  password : Option String
  deriving DecidableEq

structure Target where
  host : String
  port : UInt16
  accounts : List Account
  openLogin : Bool
  hostKeyFingerprint : String
  confirmHostKey : Bool
  clientAddress : String
  deriving DecidableEq

structure MissionSpec where
  id : String
  text : String
  criterion : Criterion
  deriving DecidableEq

structure Lesson where
  user : String
  host : String
  home : String
  motd : String
  loginBanner : List String
  target : Target
  filesystem : Snapshot
  missions : List MissionSpec
  deriving DecidableEq

namespace Target

def default : Target where
  host := "192.168.1.43"
  port := 22
  accounts := [⟨"alumno", none⟩, ⟨"alumno-saiyan", none⟩]
  openLogin := true
  hostKeyFingerprint := "SHA256:Kp3...5zE"
  confirmHostKey := true
  clientAddress := "192.168.1.10"

/-- Whether `secret` authenticates `user`; the first account of that user decides, and
a target without accounts accepts everyone. -/
def verifyPassword (target : Target) (user secret : String) : Bool :=
  target.accounts.isEmpty ||
    match target.accounts.find? (·.user = user) with
    | some account => account.password.all (· = secret)
    | none => false

/-- Whether `secret` opens a login; users without an account depend on `openLogin`. -/
def verifyLogin (target : Target) (user secret : String) : Bool :=
  if target.accounts.any (·.user = user) then target.verifyPassword user secret
  else target.openLogin || target.accounts.isEmpty

end Target

namespace Lesson

def defaultFiles : Snapshot :=
  (((∅ : Snapshot).insert "/home/alumno" (.dir ["notas.txt"])).insert
    "/home/alumno/notas.txt" (.file "Apuntes secretos de la clase de SSH.")).insert
    "/home/teacher" .emptyDir

def default : Lesson where
  user := "alumno"
  host := "laptop-local"
  home := "/home/alumno"
  motd := "Welcome to \x7bhost\x7d. Type 'help' if you get lost."
  loginBanner := ["", "Welcome to Ubuntu 22.04.3 LTS (GNU/Linux 5.15.0-91-generic x86_64)",
    " * Documentation:  https://help.ubuntu.com"]
  target := Target.default
  filesystem := defaultFiles
  missions := []

inductive Fault where
  | emptyIdentity
  | relativeHome (home : String)
  | emptyTargetHost
  | zeroPort
  | homeMissing (home : String)
  deriving DecidableEq

def Fault.message : Fault → String
  | .emptyIdentity => "user and host must not be empty"
  | .relativeHome home => "home must be an absolute path: " ++ home
  | .emptyTargetHost => "target host must not be empty"
  | .zeroPort => "target port must be non-zero"
  | .homeMissing home => "home " ++ home ++ " is not a directory in the initial filesystem"

/-- The first fault of the identity, the home and the target, in this order. The files
are checked when they are loaded. -/
def validate (lesson : Lesson) : Except Fault Unit :=
  if lesson.user = "" ∨ lesson.host = "" then .error .emptyIdentity
  else if ¬ Text.startsWith lesson.home "/" then .error (.relativeHome lesson.home)
  else if lesson.target.host = "" then .error .emptyTargetHost
  else if lesson.target.port = 0 then .error .zeroPort
  else .ok ()

/-- The welcome line: the host is filled in first, then the user. -/
def motdLine? (lesson : Lesson) : Option String :=
  if lesson.motd = "" then none
  else some (Text.replace (Text.replace lesson.motd "\x7bhost\x7d" lesson.host) "\x7buser\x7d" lesson.user)

end Lesson
end LessonShell

import LessonShell.Lesson

/-! Identity, working directory and trust of one simulation. The identity is the local
one or a remote one assumed by a login; leaving a login is the only way back. -/
namespace LessonShell

structure Session where
  user : String
  host : String
  cwd : String
  passwordMode : Bool
  localUser : String
  localHost : String
  home : String
  knownHosts : List String
  /-- The users and hosts that accept the local public key. -/
  authorized : List (String × String)
  deriving DecidableEq

namespace Session

/-- A local session in the home of the lesson. -/
def start (lesson : Lesson) : Session where
  user := lesson.user
  host := lesson.host
  cwd := lesson.home
  passwordMode := false
  localUser := lesson.user
  localHost := lesson.host
  home := lesson.home
  knownHosts := []
  authorized := []

def isRemote (session : Session) : Bool := session.host ≠ session.localHost

/-- Assumes a remote identity; the working directory is kept. -/
def connect (session : Session) (user host : String) : Session :=
  { session with user := user, host := host }

def disconnect (session : Session) : Session :=
  { session with user := session.localUser, host := session.localHost }

def authorize (session : Session) (user host : String) : Session :=
  { session with authorized := session.authorized.insert (user, host) }

def isAuthorized (session : Session) (user host : String) : Bool :=
  session.authorized.contains (user, host)

def trustHost (session : Session) (host : String) : Session :=
  { session with knownHosts := session.knownHosts.insert host }

def knowsHost (session : Session) (host : String) : Bool := session.knownHosts.contains host

/-- The working directory, with the home at its front shown as `~`. -/
def displayPath (session : Session) : String :=
  if session.cwd = session.home then "~"
  else match Text.stripStart? session.cwd session.home with
    | some rest => if Text.startsWith rest "/" then "~" ++ rest else session.cwd
    | none => session.cwd

def prompt (session : Session) : String :=
  session.user ++ "@" ++ session.host ++ ":" ++ session.displayPath ++ "$"

end Session
end LessonShell

import LessonShell.Lesson
import LessonShell.Wire.Event
import LessonShell.Wire.Node

/-! Wire form of lessons. Every field of a lesson and of its target is written and may
be left out again; accounts and missions have fields that must be there. -/
namespace LessonShell
open Json.Fields

namespace Account

def toJson (account : Account) : Json :=
  .object [("user", .text account.user), ("password", .textOrNull account.password)]

def ofJson? (json : Json) : Option Account := do
  let fields ← json.fields?
  return ⟨← required fields "user" Json.text?,
    ← defaulted fields "password" none (Json.nullable? Json.text?)⟩

end Account

namespace MissionSpec

def toJson (mission : MissionSpec) : Json :=
  .object [("id", .text mission.id), ("text", .text mission.text), ("criterion", mission.criterion.toJson)]

def ofJson? (json : Json) : Option MissionSpec := do
  let fields ← json.fields?
  return ⟨← required fields "id" Json.text?, ← required fields "text" Json.text?,
    ← required fields "criterion" Criterion.ofJson?⟩

end MissionSpec

namespace Target

def toFields (target : Target) : Json.Fields :=
  [("host", .text target.host), ("port", .integer target.port.toNat),
    ("accounts", .array (target.accounts.map Account.toJson)), ("open_login", .bool target.openLogin),
    ("host_key_fingerprint", .text target.hostKeyFingerprint),
    ("confirm_host_key", .bool target.confirmHostKey), ("client_address", .text target.clientAddress)]

def toJson (target : Target) : Json := .object target.toFields

def ofJson? (json : Json) : Option Target := do
  let fields ← json.fields?
  return {
    host := ← defaulted fields "host" default.host Json.text?
    port := ← defaulted fields "port" default.port Json.word?
    accounts := ← defaulted fields "accounts" default.accounts (Json.list? Account.ofJson?)
    openLogin := ← defaulted fields "open_login" default.openLogin Json.bool?
    hostKeyFingerprint := ← defaulted fields "host_key_fingerprint" default.hostKeyFingerprint Json.text?
    confirmHostKey := ← defaulted fields "confirm_host_key" default.confirmHostKey Json.bool?
    clientAddress := ← defaulted fields "client_address" default.clientAddress Json.text? }

end Target

namespace Snapshot

def toJson (snapshot : Snapshot) : Json :=
  .object (snapshot.toList.map fun (path, node) => (path, node.toJson))

def ofJson? (json : Json) : Option Snapshot := do
  let entries ← (← json.fields?).mapM fun (path, value) => (Node.ofJson? value).map (path, ·)
  return .ofList entries

end Snapshot

namespace Lesson

def toFields (lesson : Lesson) : Json.Fields :=
  [("user", .text lesson.user), ("host", .text lesson.host), ("home", .text lesson.home),
    ("motd", .text lesson.motd), ("login_banner", .texts lesson.loginBanner),
    ("target", lesson.target.toJson), ("filesystem", Snapshot.toJson lesson.filesystem),
    ("missions", .array (lesson.missions.map MissionSpec.toJson))]

def toJson (lesson : Lesson) : Json := .object lesson.toFields

def ofJson? (json : Json) : Option Lesson := do
  let fields ← json.fields?
  return {
    user := ← defaulted fields "user" default.user Json.text?
    host := ← defaulted fields "host" default.host Json.text?
    home := ← defaulted fields "home" default.home Json.text?
    motd := ← defaulted fields "motd" default.motd Json.text?
    loginBanner := ← defaulted fields "login_banner" default.loginBanner (Json.list? Json.text?)
    target := ← defaulted fields "target" Target.default Target.ofJson?
    filesystem := ← defaulted fields "filesystem" default.filesystem Snapshot.ofJson?
    missions := ← defaulted fields "missions" [] (Json.list? MissionSpec.ofJson?) }

end Lesson
end LessonShell

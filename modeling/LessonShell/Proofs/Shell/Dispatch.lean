import LessonShell.Proofs.Shell.Effects
import LessonShell.Proofs.Shell.Registrations
import Mathlib.Data.List.Nodup

/-! The standard registry, with or without the `echo` that accepts keys. A name is found
in it only as the key of one of the standard commands, so a dispatched line has one of
the listed effects. -/
namespace LessonShell
variable {C : Type}

namespace Registry

def standardCommands : List (Command C) :=
  [.ls, .cd, .pwd, .whoami, .cat, .mkdir, .touch, .mv, .echo, .clear, .exit, .ssh, .sshKeygen, .sshCopyId]

/-- The registry of a new terminal, as it is or with the `echo` that accepts keys. -/
def IsStandard (registry : Registry C) : Prop :=
  registry = standard ∨ registry = addAuthorizedKeysEcho standard

theorem standard_eq : (standard : Registry C) = registered (standardCommands.map .builtin) := by
  rw [standard, addRemoteCommands, addFileCommands, ← List.foldl_append, registered, List.foldl_map]
  rfl

theorem standard_lookup (name : String) :
    (standard : Registry C).find? name = Command.lastNamed? standardCommands name := by
  have builtins : (standardCommands.map Registration.builtin).filterMap Registration.builtin? =
      (standardCommands : List (Command C)) := rfl
  have custom : (standardCommands.map Registration.builtin).filterMap Registration.custom? =
      ([] : List (Command C)) := rfl
  rw [standard_eq, registered_find?, builtins, custom]
  rfl

def standardNames : List String :=
  ["ls", "cd", "pwd", "whoami", "cat", "mkdir", "touch", "mv", "echo", "clear", "exit", "ssh",
    "ssh-keygen", "ssh-copy-id"]

theorem standard_names : (standardCommands : List (Command C)).map Command.name = standardNames := rfl

theorem standard_key {command : Command C} (member : command ∈ standardCommands) :
    command.key = command.name := by
  have small : ∀ name ∈ standardNames, Text.foldCase name = name := by decide
  apply small
  rw [← standard_names (C := C)]
  exact List.mem_map_of_mem member

theorem standard_keys_distinct : ((standardCommands : List (Command C)).map Command.key).Nodup := by
  rw [List.map_congr_left fun command member => standard_key member, standard_names]
  decide

theorem standard_find? {command : Command C} (member : command ∈ standardCommands) :
    (standard : Registry C).find? command.name = some command := by
  rw [← standard_key member, standard_lookup, Command.lastNamed?_of_mem standard_keys_distinct member]

theorem mem_of_standard_find? {name : String} {command : Command C}
    (found : (standard : Registry C).find? name = some command) :
    command ∈ standardCommands ∧ command.name = name := by
  rw [standard_lookup] at found
  obtain ⟨member, key⟩ := Command.mem_of_lastNamed? found
  exact ⟨member, standard_key member ▸ key⟩

theorem authorizedKeysEcho_key : (Command.authorizedKeysEcho : Command C).key = "echo" :=
  (by decide : Text.foldCase "echo" = "echo")

theorem IsStandard.find? {registry : Registry C} (known : registry.IsStandard) {name : String}
    {command : Command C} (found : registry.find? name = some command) :
    command ∈ standardCommands ∧ command.name = name ∨
      command = Command.authorizedKeysEcho ∧ name = "echo" := by
  rcases known with rfl | rfl
  · exact .inl (mem_of_standard_find? found)
  · rw [addAuthorizedKeysEcho, registerCustom_find?] at found
    split at found
    · next key => exact .inr ⟨(Option.some.inj found).symm, key.symm.trans authorizedKeysEcho_key⟩
    · exact .inl (mem_of_standard_find? found)

theorem dispatch_of_find? {registry : Registry C} {command : Command C} (member : command ∈ standardCommands)
    (found : registry.find? command.name = some command) (args : List String) :
    registry.dispatch command.name args = command.execute args := by
  have listed : command.name ∈ standardNames := by
    rw [← standard_names (C := C)]
    exact List.mem_map_of_mem member
  have helpless : command.name ≠ "help" := fun same => absurd (same ▸ listed) (by decide)
  rw [dispatch, if_neg fun asked => helpless asked.1, found]

theorem standard_dispatch {command : Command C} (member : command ∈ standardCommands) (args : List String) :
    (standard : Registry C).dispatch command.name args = command.execute args :=
  dispatch_of_find? member (standard_find? member) args

/-- A standard command but `echo` is what its name calls. -/
theorem IsStandard.dispatch_eq {registry : Registry C} (known : registry.IsStandard) (command : Command C)
    (member : command ∈ standardCommands) (other : command.name ≠ "echo") (args : List String) :
    registry.dispatch command.name args = command.execute args := by
  rcases known with rfl | rfl
  · exact standard_dispatch member args
  · refine dispatch_of_find? member ?_ args
    rw [addAuthorizedKeysEcho, registerCustom_find?, authorizedKeysEcho_key, if_neg (Ne.symm other)]
    exact standard_find? member

end Registry

section dispatch
variable {lesson : Lesson} {line name : String} {args : List String} {scene : Scene (Dialogue C)}

theorem standard_performed {command : Command C} (member : command ∈ Registry.standardCommands)
    (idle : scene.dialogue = none) (consistent : scene.vfs.Consistent) :
    Performed lesson line command.name args scene ((command.execute args).run line lesson scene) := by
  simp only [Registry.standardCommands, List.mem_cons, List.not_mem_nil, or_false] at member
  rcases member with rfl | rfl | rfl | rfl | rfl | rfl | rfl | rfl | rfl | rfl | rfl | rfl | rfl | rfl
  · exact ls_performed idle
  · exact cd_performed idle
  · exact pwd_performed idle
  · exact whoami_performed idle
  · exact cat_performed idle
  · exact mkdir_performed idle
  · exact touch_performed idle
  · exact mv_performed idle consistent
  · exact echo_performed idle
  · exact clear_performed idle
  · exact exit_performed idle
  · exact ssh_performed idle
  · exact sshKeygen_performed idle
  · exact sshCopyId_performed idle

/-- Every dispatched line has one of the listed effects. -/
theorem dispatch_performed {registry : Registry C} (known : registry.IsStandard)
    (idle : scene.dialogue = none) (consistent : scene.vfs.Consistent) :
    Performed lesson line name args scene ((registry.dispatch name args).run line lesson scene) := by
  unfold Registry.dispatch
  split
  · next asked =>
    obtain ⟨rfl, _⟩ := asked
    cases registry.help args with
    | error cause => exact ⟨none, [], .refused _ nofun, idle, rfl, [], (List.append_nil _).symm, fun _ _ => rfl⟩
    | ok output => exact ⟨none, [], .shown output (by decide), idle, rfl, [], (List.append_nil _).symm, fun _ _ => rfl⟩
  · split
    · next command found =>
      rcases known.find? found with ⟨member, rfl⟩ | ⟨rfl, rfl⟩
      · exact standard_performed member idle consistent
      · exact authorizedKeysEcho_performed idle
    · exact ⟨none, [], .refused _ nofun, idle, rfl, [], (List.append_nil _).symm, fun _ _ => rfl⟩

theorem Effect.echo_of_keysCopied {session after : Session} {vfs changed : Vfs} {prompt : Option Prompt}
    {result : Except Failure CommandOutput} {events : List Event}
    (effect : Effect lesson line session vfs name args result after changed prompt events)
    (copied : .keysCopied ∈ events) : name = "echo" := by
  cases effect with
  | keyAccepted request long => rfl
  | _ => simp at copied

theorem echo_copies_no_key
    (copied : .keysCopied ∈ ((Command.echo.execute args).run line lesson scene).2.bus.pending) :
    .keysCopied ∈ scene.bus.pending := by
  rw [Command.run_echo] at copied
  cases request : EchoRequest.ofLine line with
  | error cause =>
    rw [request] at copied
    exact copied
  | ok parsed =>
    rw [request] at copied
    cases parsed with
    | print text => exact copied
    | append content target => simpa [Scene.emit, EventBus.emit] using copied

/-- No standard command announces an installed key. -/
theorem standard_copies_no_key {command : Command C} (member : command ∈ Registry.standardCommands)
    (idle : scene.dialogue = none) (consistent : scene.vfs.Consistent)
    (copied : .keysCopied ∈ ((command.execute args).run line lesson scene).2.bus.pending) :
    .keysCopied ∈ scene.bus.pending := by
  have listed : (Command.echo : Command C) ∈ Registry.standardCommands := by
    simp [Registry.standardCommands]
  by_cases named : command.name = "echo"
  · have keys : command.key = (Command.echo : Command C).key := by
      rw [Registry.standard_key member, Registry.standard_key listed, named]
      rfl
    obtain rfl := List.inj_on_of_nodup_map Registry.standard_keys_distinct member listed keys
    exact echo_copies_no_key copied
  · have performed : Performed lesson line command.name args scene _ :=
      standard_performed member idle consistent
    obtain ⟨prompt, events, effect, _, bus, _⟩ := performed
    rw [bus, foldl_emit_pending, List.mem_append] at copied
    rcases copied with before | announced
    · exact before
    · exact absurd (effect.echo_of_keysCopied announced) named

/-- An installed key is announced only by the `echo` that accepts keys. -/
theorem find?_of_keysCopied {registry : Registry C} (known : registry.IsStandard)
    (idle : scene.dialogue = none) (consistent : scene.vfs.Consistent)
    (fresh : .keysCopied ∉ scene.bus.pending)
    (copied : .keysCopied ∈ ((registry.dispatch name args).run line lesson scene).2.bus.pending) :
    registry.find? name = some .authorizedKeysEcho := by
  unfold Registry.dispatch at copied
  split at copied
  · cases helped : registry.help args with
    | error cause =>
      rw [helped] at copied
      exact absurd copied fresh
    | ok output =>
      rw [helped] at copied
      exact absurd copied fresh
  · split at copied
    · next command found =>
      rcases known.find? found with ⟨member, rfl⟩ | ⟨rfl, rfl⟩
      · exact absurd (standard_copies_no_key member idle consistent copied) fresh
      · exact found
    · exact absurd copied fresh

end dispatch
end LessonShell

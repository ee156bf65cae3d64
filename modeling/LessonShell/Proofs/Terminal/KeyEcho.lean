import LessonShell.Proofs.Terminal.Attempts
import LessonShell.Proofs.Terminal.Logins

/-! The `echo` that takes keys beside the built-in one. Both announce the same appends and print the
same texts, and on every line but an append to a file of authorized keys they leave the same terminal.
Such a line either installs a key for the login of the session or is refused, and has no other effect
than the announcement that the built-in makes as well. -/
namespace LessonShell

/-- The line asks `echo` to append `content` to a file of authorized keys. -/
structure AppendsKey (line content target : String) : Prop where
  request : EchoRequest.ofLine line = .ok (.append content target)
  keys : Text.contains target "authorized_keys" = true

namespace Command
variable {C : Type} {line content target : String} {lesson : Lesson} {args : List String}
  {scene : Scene (Dialogue C)}

theorem run_authorizedKeysEcho_of_keyless (keyless : ¬ ∃ content target, AppendsKey line content target) :
    (authorizedKeysEcho.execute args).run line lesson scene = (echo.execute args).run line lesson scene := by
  rw [run_authorizedKeysEcho, run_echo]
  cases request : EchoRequest.ofLine line with
  | error cause => rfl
  | ok parsed =>
    cases parsed with
    | print text => rfl
    | append content target =>
      have elsewhere : ¬ Text.contains target "authorized_keys" = true :=
        fun keys => keyless ⟨content, target, request, keys⟩
      exact if_pos elsewhere

theorem run_echo_append (request : EchoRequest.ofLine line = .ok (.append content target)) :
    (echo.execute args).run line lesson scene =
      (.ok .silent, scene.emit (.fileAppend target content)) := by
  rw [run_echo, request]

theorem run_authorizedKeysEcho_long (appends : AppendsKey line content target)
    (long : 10 < content.toList.length) :
    (authorizedKeysEcho.execute args).run line lesson scene = (.ok .silent,
      Scene.emit { scene.emit (.fileAppend target content) with
        session := scene.session.authorize scene.session.user scene.session.host } .keysCopied) := by
  rw [run_authorizedKeysEcho, appends.request]
  exact (if_neg (not_not.mpr appends.keys)).trans (if_neg (Nat.not_le_of_gt long))

theorem run_authorizedKeysEcho_short (appends : AppendsKey line content target)
    (short : content.toList.length ≤ 10) :
    (authorizedKeysEcho.execute args).run line lesson scene =
      (.error (.command .shortKey), scene.emit (.fileAppend target content)) := by
  rw [run_authorizedKeysEcho, appends.request]
  exact (if_neg (not_not.mpr appends.keys)).trans (if_pos short)

end Command

theorem Session.isAuthorized_authorize_iff {session : Session} {user host asker machine : String} :
    (session.authorize user host).isAuthorized asker machine = true ↔
      session.isAuthorized asker machine = true ∨ asker = user ∧ machine = host := by
  rw [isAuthorized_iff, isAuthorized_iff, authorize, List.mem_insert_iff, Prod.mk.injEq, or_comm]

namespace Registry
variable {C : Type}

theorem addAuthorizedKeysEcho_find? (registry : Registry C) :
    registry.addAuthorizedKeysEcho.find? "echo" = some .authorizedKeysEcho := by
  rw [addAuthorizedKeysEcho, registerCustom_find?, if_pos authorizedKeysEcho_key]

end Registry

namespace Terminal
variable {C : Type} {terminal : Terminal C} {input : String}

theorem filled_of_calledName (name : calledName input = "echo") : Text.trimmed input ≠ "" := by
  intro empty
  rw [calledName, empty] at name
  exact absurd name (by decide)

/-- What a key that is taken adds to the turn that the built-in `echo` makes of its line: the login of
the session is authorized, no other is, and one event follows the others. -/
structure KeyTaken (before : Terminal C) (plain keyed : Terminal C × List Event) : Prop where
  session : keyed.1.scene.session = { plain.1.scene.session with
    authorized := plain.1.scene.session.authorized.insert
      (before.scene.session.user, before.scene.session.host) }
  vfs : keyed.1.scene.vfs = plain.1.scene.vfs
  transcript : keyed.1.scene.transcript = plain.1.scene.transcript
  dialogue : keyed.1.scene.dialogue = plain.1.scene.dialogue
  bus : keyed.1.scene.bus = { plain.1.scene.bus with
    delivered := plain.1.scene.bus.delivered ++
      (List.range plain.1.scene.bus.listeners).map (⟨·, .keysCopied⟩) }
  authorizes : ∀ user host, keyed.1.scene.session.isAuthorized user host = true ↔
    before.scene.session.isAuthorized user host = true ∨
      user = before.scene.session.user ∧ host = before.scene.session.host
  events : keyed.2 = plain.2 ++ [.keysCopied]

/-- What a key that is too short adds to the turn that the built-in `echo` makes of its line. -/
structure KeyRefused (plain keyed : Terminal C × List Event) : Prop where
  transcript : keyed.1.scene.transcript =
    plain.1.scene.transcript ++ [.styled "echo: key seems too short" .error]
  session : keyed.1.scene.session = plain.1.scene.session
  vfs : keyed.1.scene.vfs = plain.1.scene.vfs
  dialogue : keyed.1.scene.dialogue = plain.1.scene.dialogue
  bus : keyed.1.scene.bus = plain.1.scene.bus
  events : keyed.2 = plain.2

variable [CustomDialogue C]

theorem submit_echo {command : Command C} (idle : terminal.scene.dialogue = none)
    (found : terminal.registry.find? "echo" = some command) (name : calledName input = "echo")
    {result : Except Failure CommandOutput} {after : Scene (Dialogue C)}
    (ran : (command.execute (calledArgs input)).run (Text.trimmed input) terminal.lesson
      (terminal.callScene input "echo" (calledArgs input)) = (result, after)) :
    terminal.submit input = terminal.endTurn (after.conclude result) := by
  have other : ¬ ("echo" = "help" ∧ ¬ terminal.registry.isCustom "help" = true) := fun asked =>
    absurd asked.1 (by decide)
  have called : terminal.called input = (result, after) := by
    rw [called, name, Registry.dispatch, if_neg other, found]
    exact ran
  rw [submit_of_filled idle (filled_of_calledName name), called]

/-- A line that appends is announced by the built-in, which changes nothing. -/
theorem submit_echo_append (idle : terminal.scene.dialogue = none)
    (builtin : terminal.registry.find? "echo" = some .echo) (name : calledName input = "echo")
    {content target : String}
    (request : EchoRequest.ofLine (Text.trimmed input) = .ok (.append content target)) :
    Leaves terminal terminal.scene.session terminal.scene.vfs none (terminal.submit input).1 ∧
      (terminal.submit input).1.scene.transcript = terminal.scene.transcript ++
        [.command (Text.trimmed input) terminal.scene.session.user terminal.scene.session.host] ∧
      (terminal.submit input).2 = terminal.scene.bus.pending ++
        [terminal.callEvent input "echo" (calledArgs input), .fileAppend target content] := by
  let announced := (terminal.callScene input "echo" (calledArgs input)).emit (.fileAppend target content)
  have waits : announced.dialogue = (none : Option Prompt).map .builtin := idle
  have turn : terminal.submit input = terminal.endTurn announced :=
    submit_echo idle builtin name (Command.run_echo_append request)
  rw [turn]
  exact ⟨endTurn_leaves waits, rfl, List.append_assoc ..⟩

/-- On a line of `echo` the command that takes keys leaves the terminal that the built-in leaves,
unless the line appends to a file of authorized keys. In that case the built-in announces the append
and does nothing else, and the other one does the same first; then it takes a key of more than ten
characters and refuses any other. -/
theorem echo_compared (idle : terminal.scene.dialogue = none)
    (builtin : terminal.registry.find? "echo" = some .echo) (name : calledName input = "echo") :
    let keys := terminal.editRegistry Registry.addAuthorizedKeysEcho
    let plain := terminal.submit input
    let keyed := keys.submit input
    ((¬ ∃ content target, AppendsKey (Text.trimmed input) content target) →
      keyed.1 = plain.1.editRegistry Registry.addAuthorizedKeysEcho ∧ keyed.2 = plain.2) ∧
    ∀ content target, AppendsKey (Text.trimmed input) content target →
      Leaves terminal terminal.scene.session terminal.scene.vfs none plain.1 ∧
      plain.1.scene.transcript = terminal.scene.transcript ++
        [.command (Text.trimmed input) terminal.scene.session.user terminal.scene.session.host] ∧
      plain.2 = terminal.scene.bus.pending ++
        [terminal.callEvent input "echo" (calledArgs input), .fileAppend target content] ∧
      (10 < content.toList.length → KeyTaken terminal plain keyed) ∧
      (content.toList.length ≤ 10 → KeyRefused plain keyed) := by
  intro keys plain keyed
  have found : keys.registry.find? "echo" = some .authorizedKeysEcho :=
    Registry.addAuthorizedKeysEcho_find? terminal.registry
  have waits : keys.scene.dialogue = none := idle
  let scene : Scene (Dialogue C) := terminal.callScene input "echo" (calledArgs input)
  constructor
  · intro keyless
    have same : (Command.authorizedKeysEcho.execute (calledArgs input)).run (Text.trimmed input)
        terminal.lesson scene = _ := Command.run_authorizedKeysEcho_of_keyless keyless
    generalize built : (Command.echo.execute (calledArgs input)).run (Text.trimmed input) terminal.lesson scene =
      run at same
    have plainly : plain = terminal.endTurn (run.2.conclude run.1) := submit_echo idle builtin name built
    have keyedly : keyed = keys.endTurn (run.2.conclude run.1) := submit_echo waits found name same
    rw [plainly, keyedly]
    exact ⟨rfl, rfl⟩
  · intro content target appends
    obtain ⟨leaves, shown, announced⟩ := submit_echo_append idle builtin name appends.request
    have plainly : plain = terminal.endTurn (scene.emit (.fileAppend target content)) :=
      submit_echo idle builtin name (Command.run_echo_append appends.request)
    refine ⟨leaves, shown, announced, ?_, ?_⟩
    · intro long
      have keyedly : keyed = _ := submit_echo waits found name (Command.run_authorizedKeysEcho_long appends long)
      rw [plainly, keyedly]
      exact ⟨rfl, rfl, rfl, rfl, rfl, fun user host => Session.isAuthorized_authorize_iff, rfl⟩
    · intro short
      have keyedly : keyed = _ := submit_echo waits found name (Command.run_authorizedKeysEcho_short appends short)
      rw [plainly, keyedly]
      exact ⟨rfl, rfl, rfl, rfl, rfl, rfl⟩

theorem echo_compared_on_keys : ∃ terminal : Terminal Empty, Terminal.new Lesson.default = .ok terminal ∧
    let keys := terminal.editRegistry Registry.addAuthorizedKeysEcho
    KeyTaken terminal (terminal.submit "echo 'ssh-rsa AA'AA >> ~/.ssh/authorized_keys")
      (keys.submit "echo 'ssh-rsa AA'AA >> ~/.ssh/authorized_keys") ∧
    KeyRefused (terminal.submit " ECHO \"ññññññññññ\">>authorized_keys.old")
      (keys.submit " ECHO \"ññññññññññ\">>authorized_keys.old") := by
  obtain ⟨terminal, accepted⟩ := exists_new_default (C := Empty)
  have idle : terminal.scene.dialogue = none := by
    obtain ⟨_, vfs, _, rfl⟩ := new_eq_ok_iff.mp accepted
    rfl
  have registry : terminal.registry = .standard := by
    obtain ⟨_, vfs, _, rfl⟩ := new_eq_ok_iff.mp accepted
    rfl
  have builtin : terminal.registry.find? "echo" = some .echo := by
    have member : (Command.echo : Command Empty) ∈ Registry.standardCommands := by simp [Registry.standardCommands]
    have found := Registry.standard_find? member
    rw [registry]
    exact found
  have long : AppendsKey (Text.trimmed "echo 'ssh-rsa AA'AA >> ~/.ssh/authorized_keys") "ssh-rsa AAAA"
      "~/.ssh/authorized_keys" := ⟨by decide +kernel, by decide +kernel⟩
  have short : AppendsKey (Text.trimmed " ECHO \"ññññññññññ\">>authorized_keys.old") "ññññññññññ"
      "authorized_keys.old" := ⟨by decide +kernel, by decide +kernel⟩
  have called : calledName "echo 'ssh-rsa AA'AA >> ~/.ssh/authorized_keys" = "echo" := by decide +kernel
  have shouted : calledName " ECHO \"ññññññññññ\">>authorized_keys.old" = "echo" := by decide +kernel
  have takes := ((echo_compared idle builtin called).2 _ _ long).2.2.2.1
  have refuses := ((echo_compared idle builtin shouted).2 _ _ short).2.2.2.2
  exact ⟨terminal, accepted, takes (by decide), refuses (by decide)⟩

end Terminal
end LessonShell

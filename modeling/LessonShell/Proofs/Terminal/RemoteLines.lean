import LessonShell.Proofs.Shell.Operands
import LessonShell.Proofs.Terminal.Attempts
import LessonShell.Proofs.Terminal.Lines

/-! Lines for the target that are bound to be understood. A terminal that waits for a line carries
`ssh` and `ssh-copy-id` with the operands of a nameable login as far as a question or a connection. -/
namespace LessonShell

theorem Lesson.port_ne_zero {lesson : Lesson} (valid : lesson.validate = .ok ()) :
    lesson.target.port ≠ 0 := by
  unfold validate at valid
  split at valid
  · cases valid
  · split at valid
    · cases valid
    · split at valid
      · cases valid
      · split at valid
        · cases valid
        · next port => exact port

namespace Terminal
variable {C : Type}

def sshLine (target : Target) (user : String) : String := callLine "ssh" (target.operandsFor user)

def sshCopyIdLine (target : Target) (user : String) : String :=
  callLine "ssh-copy-id" (target.operandsFor user)

/-- A terminal of the lesson, with the standard commands, that waits for a line, and a login to its
target that one operand can name. -/
structure Ready (lesson : Lesson) (terminal : Terminal C) (user : String) : Prop where
  about : terminal.lesson = lesson
  registry : terminal.registry = .standard
  idle : terminal.scene.dialogue = none
  quiet : terminal.scene.bus.pending = []
  positive : lesson.target.port ≠ 0
  named : Nameable user lesson.target.host

theorem Poised.ready {lesson : Lesson} {terminal : Terminal C} (poised : Poised lesson terminal)
    (valid : lesson.validate = .ok ()) (registry : terminal.registry = .standard)
    (idle : terminal.scene.dialogue = none) {user : String} (named : Nameable user lesson.target.host) :
    Ready lesson terminal user :=
  ⟨poised.sound.about, registry, idle, poised.quiet, Lesson.port_ne_zero valid, named⟩

namespace Ready
variable {lesson : Lesson} {terminal : Terminal C} {user : String}

theorem reached (ready : Ready lesson terminal user) :
    lesson.target.Reached (lesson.target.operandsFor user) user lesson.target.host :=
  (Target.reached_iff "ssh").mpr ⟨_, _, RemoteOperands.read_operandsFor "ssh" ready.positive ready.named, rfl,
    RemoteOperands.reach_operandsFor ready.named⟩

theorem invokes (ready : Ready lesson terminal user) {command : Command C}
    (member : command ∈ Registry.standardCommands) (other : command.name ≠ "echo") :
    Invokes lesson terminal (callLine command.name (lesson.target.operandsFor user)) command
      (lesson.target.operandsFor user) := by
  obtain ⟨words, _⟩ := callLine_reads member (Target.operandsFor_words ready.named)
  exact invokes_standard ready.about (.inl ready.registry) ready.idle ready.quiet member other words
    (Registry.standard_key member)

theorem invokes_ssh (ready : Ready lesson terminal user) :
    Invokes lesson terminal (sshLine lesson.target user) .ssh (lesson.target.operandsFor user) := by
  have invokes := ready.invokes ssh_member (by simp [Command.ssh])
  exact invokes

variable [CustomDialogue C]

theorem ssh_connects (ready : Ready lesson terminal user)
    (authorized : terminal.scene.session.isAuthorized user lesson.target.host = true) :
    (terminal.submit (sshLine lesson.target user)).2 =
        [.command "ssh" (sshLine lesson.target user) (lesson.target.operandsFor user)
          terminal.scene.session.user terminal.scene.session.host,
          .connected user lesson.target.host .key] ∧
      (terminal.submit (sshLine lesson.target user)).1.scene.dialogue = none := by
  have kept : Text.trimmed (sshLine lesson.target user) = sshLine lesson.target user :=
    (callLine_reads (ssh_member (C := C)) (Target.operandsFor_words ready.named)).2
  obtain ⟨_, leaves, events⟩ := ready.invokes_ssh.ssh_connects ready.reached authorized
  refine ⟨events.trans ?_, leaves.dialogue⟩
  rw [callEvent, kept]

theorem ssh_asks_host (ready : Ready lesson terminal user)
    (unauthorized : ¬ terminal.scene.session.isAuthorized user lesson.target.host = true)
    (confirm : lesson.target.confirmHostKey = true)
    (unknown : ¬ terminal.scene.session.knowsHost lesson.target.host = true) :
    (terminal.submit (sshLine lesson.target user)).1.scene.dialogue =
      some (.builtin (.hostKey user lesson.target.host)) :=
  (ready.invokes_ssh.ssh_asks_host ready.reached (Bool.eq_false_iff.mpr unauthorized)
    ⟨confirm, Bool.eq_false_iff.mpr unknown⟩).2.1.dialogue

theorem ssh_asks_password (ready : Ready lesson terminal user)
    (unauthorized : ¬ terminal.scene.session.isAuthorized user lesson.target.host = true)
    (trusted : lesson.target.confirmHostKey = false ∨
      terminal.scene.session.knowsHost lesson.target.host = true) :
    (terminal.submit (sshLine lesson.target user)).1.scene.dialogue =
      some (.builtin (.password .login user lesson.target.host)) :=
  (ready.invokes_ssh.ssh_asks_password ready.reached (Bool.eq_false_iff.mpr unauthorized) trusted).2.1.dialogue

theorem sshCopyId_asks (ready : Ready lesson terminal user) {publicKey : String}
    (key : KeyPair.find? terminal.scene.vfs terminal.scene.session.home = some publicKey)
    (unauthorized : ¬ terminal.scene.session.isAuthorized user lesson.target.host = true) :
    (terminal.submit (sshCopyIdLine lesson.target user)).1.scene.dialogue =
      some (.builtin (.password .copyId user lesson.target.host)) := by
  have invokes := ready.invokes sshCopyId_member (by simp [Command.sshCopyId])
  have asks := (invokes.sshCopyId_asks key ready.reached).2.1.dialogue
  rwa [if_neg unauthorized] at asks

end Ready
end Terminal
end LessonShell

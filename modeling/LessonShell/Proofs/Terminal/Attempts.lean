import LessonShell.Proofs.KeyPair
import LessonShell.Proofs.Terminal.Masking
import LessonShell.Proofs.Terminal.Questions

/-! Attempts to reach the target. A line of `ssh` or `ssh-copy-id` whose arguments do not reach it is
answered with one error and leaves no trace; any other connects, or asks the one question that is
due. -/
namespace LessonShell

namespace Command
variable {C : Type} {line : String} {lesson : Lesson} {scene : Scene (Dialogue C)} {args : List String}
  {user host : String}

theorem run_ssh_of_reached (reached : lesson.target.Reached args user host) :
    (ssh.execute args).run line lesson scene = (login user host).run line lesson scene := by
  obtain ⟨operands, operand, read, target, reached⟩ := (Target.reached_iff "ssh").mp reached
  exact run_ssh read target reached

theorem ssh_refuses (unreached : ¬ ∃ user host, lesson.target.Reached args user host) :
    ∃ cause, (ssh.execute args).run line lesson scene = (.error (.command cause), scene) := by
  unfold ssh
  dsimp only
  rw [Program.run_bind]
  cases read : RemoteOperands.read "ssh" args with
  | error cause => exact ⟨_, rfl⟩
  | ok operands =>
    simp only [Program.ofParse, Program.run]
    split
    · next operand target =>
      rw [Program.run_view_bind]
      split
      · exact ⟨_, rfl⟩
      · next user host reached =>
        refine absurd ⟨user, host, ?_⟩ unreached
        exact (Target.reached_iff "ssh").mpr ⟨operands, operand, read, target, reached⟩
    · exact ⟨_, rfl⟩

theorem run_sshCopyId_of_reached {publicKey : String}
    (key : KeyPair.find? scene.vfs scene.session.home = some publicKey)
    (reached : lesson.target.Reached args user host) :
    (sshCopyId.execute args).run line lesson scene =
      (installKey publicKey user host).run line lesson scene := by
  obtain ⟨operands, operand, read, target, reached⟩ := (Target.reached_iff "ssh-copy-id").mp reached
  exact run_sshCopyId key read target reached

theorem sshCopyId_refuses (line : String) (scene : Scene (Dialogue C))
    (unready : ¬ ((KeyPair.find? scene.vfs scene.session.home).isSome = true ∧
      ∃ user host, lesson.target.Reached args user host)) :
    ∃ cause, (sshCopyId.execute args).run line lesson scene = (.error (.command cause), scene) := by
  unfold sshCopyId
  dsimp only
  rw [Program.run_view_bind]
  split
  · next publicKey key =>
    rw [Program.run_bind]
    cases read : RemoteOperands.read "ssh-copy-id" args with
    | error cause => exact ⟨_, rfl⟩
    | ok operands =>
      simp only [Program.ofParse, Program.run]
      split
      · next operand target =>
        split
        · exact ⟨_, rfl⟩
        · next user host reached =>
          refine absurd ⟨?_, user, host, ?_⟩ unready
          · exact key ▸ rfl
          · exact (Target.reached_iff "ssh-copy-id").mpr ⟨operands, operand, read, target, reached⟩
      · exact ⟨_, rfl⟩
  · exact ⟨_, rfl⟩

end Command

namespace Terminal
variable {C : Type}

/-- The event of a command line. -/
def callEvent (terminal : Terminal C) (input name : String) (args : List String) : Event :=
  .command name (Text.trimmed input) args terminal.scene.session.user terminal.scene.session.host

/-- The scene in which the command of a line runs. -/
def callScene (terminal : Terminal C) (input name : String) (args : List String) : Scene (Dialogue C) :=
  acknowledge terminal.scene (Text.trimmed input) name args

/-- A line that is shown and announced and answered with one error, and has no other effect. -/
structure Refuses (before : Terminal C) (input name : String) (args : List String)
    (turn : Terminal C × List Event) : Prop where
  transcript : ∃ failure : Failure, turn.1.scene.transcript = before.scene.transcript ++
    [.command (Text.trimmed input) before.scene.session.user before.scene.session.host,
      .styled failure.message .error]
  vfs : turn.1.scene.vfs = before.scene.vfs
  session : turn.1.scene.session = before.scene.session
  dialogue : turn.1.scene.dialogue = none
  events : turn.2 = [before.callEvent input name args]

/-- What a line of `ssh` with these arguments does. -/
structure SshOutcome (target : Target) (before : Terminal C) (input : String) (args : List String)
    (turn : Terminal C × List Event) : Prop where
  proceeds : (∃ output, before.outcome? input = some (.ok output)) ↔
    ∃ user host, target.Reached args user host
  refuses : (¬ ∃ user host, target.Reached args user host) → Refuses before input "ssh" args turn
  connects : ∀ {user host}, target.Reached args user host →
    before.scene.session.isAuthorized user host = true →
    Leaves before { before.scene.session with user := user, host := host } before.scene.vfs none turn.1 ∧
      turn.2 = [before.callEvent input "ssh" args, .connected user host .key]
  asksHost : ∀ {user host}, target.Reached args user host →
    before.scene.session.isAuthorized user host = false →
    target.confirmHostKey = true ∧ before.scene.session.knowsHost host = false →
    Leaves before before.scene.session before.scene.vfs (some (.hostKey user host)) turn.1 ∧
      turn.2 = [before.callEvent input "ssh" args]
  asksPassword : ∀ {user host}, target.Reached args user host →
    before.scene.session.isAuthorized user host = false →
    ¬ (target.confirmHostKey = true ∧ before.scene.session.knowsHost host = false) →
    Leaves before before.scene.session before.scene.vfs (some (.password .login user host)) turn.1 ∧
      turn.2 = [before.callEvent input "ssh" args]

/-- What a line of `ssh-copy-id` with these arguments does. -/
structure CopyIdOutcome (target : Target) (before : Terminal C) (input : String) (args : List String)
    (turn : Terminal C × List Event) : Prop where
  proceeds : (∃ output, before.outcome? input = some (.ok output)) ↔
    KeyPair.Offered before.scene.vfs before.scene.session.home ∧ ∃ user host, target.Reached args user host
  refuses : ¬ (KeyPair.Offered before.scene.vfs before.scene.session.home ∧
    ∃ user host, target.Reached args user host) → Refuses before input "ssh-copy-id" args turn
  asks : ∀ {user host}, KeyPair.Offered before.scene.vfs before.scene.session.home →
    target.Reached args user host →
    Leaves before before.scene.session before.scene.vfs
        (if before.scene.session.isAuthorized user host then none else some (.password .copyId user host))
        turn.1 ∧
      turn.2 = [before.callEvent input "ssh-copy-id" args]
  /-- Whether it proceeds or not, only the note about masked input can change. -/
  keeps : turn.1.scene.vfs = before.scene.vfs ∧ ∃ mode,
    turn.1.scene.session = { before.scene.session with passwordMode := mode }

variable {lesson : Lesson} {before : Terminal C} {input word : String} {args : List String}

/-- The line `input` invokes the standard command `command` with the arguments `args`. -/
structure Invokes (lesson : Lesson) (before : Terminal C) (input : String) (command : Command C)
    (args : List String) : Prop where
  idle : before.scene.dialogue = none
  quiet : before.scene.bus.pending = []
  filled : Text.trimmed input ≠ ""
  called : before.called input =
    (command.execute args).run (Text.trimmed input) lesson (before.callScene input command.name args)

theorem ssh_member : (Command.ssh : Command C) ∈ Registry.standardCommands := by
  simp [Registry.standardCommands]

theorem sshCopyId_member : (Command.sshCopyId : Command C) ∈ Registry.standardCommands := by
  simp [Registry.standardCommands]

theorem invokes_standard (about : before.lesson = lesson) (known : before.registry.IsStandard)
    (idle : before.scene.dialogue = none) (quiet : before.scene.bus.pending = []) {command : Command C}
    (member : command ∈ Registry.standardCommands) (other : command.name ≠ "echo")
    (words : Text.words input = word :: args) (named : Text.foldCase word = command.name) :
    Invokes lesson before input command args := by
  refine ⟨idle, quiet, filled_of_words words, ?_⟩
  rw [called, calledName_of_words words, calledArgs_of_words words, named,
    known.dispatch_eq command member other, about]
  rfl

theorem Poised.invokes (poised : Poised lesson before) (idle : before.scene.dialogue = none)
    {command : Command C} (member : command ∈ Registry.standardCommands) (other : command.name ≠ "echo")
    (words : Text.words input = command.name :: args) : Invokes lesson before input command args :=
  invokes_standard poised.sound.about poised.sound.registry idle poised.quiet member other words
    (Registry.standard_key member)

namespace Invokes
variable {command : Command C} {result : Except Failure CommandOutput} {after : Scene (Dialogue C)}

theorem outcome (invokes : Invokes lesson before input command args)
    (ran : (command.execute args).run (Text.trimmed input) lesson
      (before.callScene input command.name args) = (result, after)) :
    before.outcome? input = some result :=
  outcome?_eq_some_iff.mpr ⟨invokes.idle, invokes.filled, by rw [invokes.called, ran]⟩

variable [CustomDialogue C]

theorem leaves (invokes : Invokes lesson before input command args)
    (ran : (command.execute args).run (Text.trimmed input) lesson
      (before.callScene input command.name args) = (result, after))
    {prompt : Option Prompt} (dialogue : after.dialogue = prompt.map .builtin) {events : List Event}
    (bus : after.bus.pending = (before.callScene input command.name args).bus.pending ++ events) :
    Leaves before after.session after.vfs prompt (before.submit input).1 ∧
      (before.submit input).2 = before.callEvent input command.name args :: events := by
  obtain ⟨session, vfs, kept, carried⟩ := conclude_same after result
  have first : (before.callScene input command.name args).bus.pending =
      [before.callEvent input command.name args] := by
    change before.scene.bus.pending ++ [_] = _
    rw [invokes.quiet]
    rfl
  rw [submit_of_filled invokes.idle invokes.filled, invokes.called, ran, ← session, ← vfs]
  refine ⟨endTurn_leaves (kept.trans dialogue), ?_⟩
  change (after.conclude result).bus.pending = _
  rw [carried, bus, first]
  rfl

/-- A command that only looks leaves what the line that called it has shown and announced. -/
theorem unaffecting (invokes : Invokes lesson before input command args) (notes : NotesMask before)
    (ran : (command.execute args).run (Text.trimmed input) lesson
      (before.callScene input command.name args) = (result, before.callScene input command.name args)) :
    (before.submit input).1.scene.transcript =
        ((before.callScene input command.name args).conclude result).transcript ∧
      (before.submit input).1.scene.vfs = before.scene.vfs ∧
      (before.submit input).1.scene.session = before.scene.session ∧
      (before.submit input).1.scene.dialogue = none ∧
      (before.submit input).2 = [before.callEvent input command.name args] := by
  have waits : (before.callScene input command.name args).dialogue = (none : Option Prompt).map .builtin :=
    invokes.idle
  obtain ⟨leaves, events⟩ := invokes.leaves ran waits (List.append_nil _).symm
  refine ⟨?_, leaves.vfs, leaves.session.trans (notes.session_eq invokes.idle), leaves.dialogue, events⟩
  rw [submit_of_filled invokes.idle invokes.filled, invokes.called, ran]
  rfl

theorem refuses (invokes : Invokes lesson before input command args) (notes : NotesMask before)
    {failure : Failure} (ran : (command.execute args).run (Text.trimmed input) lesson
      (before.callScene input command.name args) = (.error failure, before.callScene input command.name args)) :
    Refuses before input command.name args (before.submit input) := by
  obtain ⟨transcript, vfs, session, dialogue, events⟩ := invokes.unaffecting notes ran
  exact ⟨⟨failure, transcript.trans (List.append_assoc ..)⟩, vfs, session, dialogue, events⟩

theorem ssh_connects (invokes : Invokes lesson before input .ssh args) {user host : String}
    (reached : lesson.target.Reached args user host)
    (authorized : before.scene.session.isAuthorized user host = true) :
    before.outcome? input = some (.ok .silent) ∧
      Leaves before (before.scene.session.connect user host) before.scene.vfs none (before.submit input).1 ∧
      (before.submit input).2 = [before.callEvent input "ssh" args, .connected user host .key] := by
  obtain ⟨entries, ran⟩ := Command.login_by_key lesson (Text.trimmed input)
    (before.callScene input "ssh" args) authorized
  rw [← Command.run_ssh_of_reached reached] at ran
  exact ⟨invokes.outcome ran, invokes.leaves ran (by exact invokes.idle) rfl⟩

theorem ssh_asks_host (invokes : Invokes lesson before input .ssh args) {user host : String}
    (reached : lesson.target.Reached args user host)
    (unauthorized : before.scene.session.isAuthorized user host = false)
    (unknown : lesson.target.confirmHostKey = true ∧ before.scene.session.knowsHost host = false) :
    before.outcome? input = some (.ok .silent) ∧
      Leaves before before.scene.session before.scene.vfs (some (.hostKey user host))
        (before.submit input).1 ∧
      (before.submit input).2 = [before.callEvent input "ssh" args] := by
  obtain ⟨entries, ran⟩ := Command.login_asks_host (Text.trimmed input) (before.callScene input "ssh" args)
    invokes.idle (Bool.eq_false_iff.mp unauthorized) unknown.1 (Bool.eq_false_iff.mp unknown.2)
  rw [← Command.run_ssh_of_reached reached] at ran
  exact ⟨invokes.outcome ran, invokes.leaves ran rfl (List.append_nil _).symm⟩

theorem ssh_asks_password (invokes : Invokes lesson before input .ssh args) {user host : String}
    (reached : lesson.target.Reached args user host)
    (unauthorized : before.scene.session.isAuthorized user host = false)
    (trusted : lesson.target.confirmHostKey = false ∨ before.scene.session.knowsHost host = true) :
    before.outcome? input = some (.ok .silent) ∧
      Leaves before before.scene.session before.scene.vfs (some (.password .login user host))
        (before.submit input).1 ∧
      (before.submit input).2 = [before.callEvent input "ssh" args] := by
  obtain ⟨entries, ran⟩ := Command.login_asks_password (Text.trimmed input)
    (before.callScene input "ssh" args) invokes.idle (Bool.eq_false_iff.mp unauthorized) trusted
  rw [← Command.run_ssh_of_reached reached] at ran
  exact ⟨invokes.outcome ran, invokes.leaves ran rfl (List.append_nil _).symm⟩

theorem ssh_outcome (invokes : Invokes lesson before input .ssh args) (notes : NotesMask before) :
    SshOutcome lesson.target before input args (before.submit input) := by
  have trusts {host : String}
      (trusted : ¬ (lesson.target.confirmHostKey = true ∧ before.scene.session.knowsHost host = false)) :
      lesson.target.confirmHostKey = false ∨ before.scene.session.knowsHost host = true := by
    rwa [Decidable.not_and_iff_or_not, Bool.not_eq_true, Bool.not_eq_false] at trusted
  refine ⟨⟨?_, ?_⟩, ?_, ?_, ?_, ?_⟩
  · rintro ⟨output, done⟩
    by_contra unreached
    obtain ⟨cause, ran⟩ := Command.ssh_refuses unreached
    rw [invokes.outcome ran] at done
    cases done
  · rintro ⟨user, host, reached⟩
    refine ⟨.silent, ?_⟩
    cases authorized : before.scene.session.isAuthorized user host with
    | true => exact (invokes.ssh_connects reached authorized).1
    | false =>
      by_cases unknown : lesson.target.confirmHostKey = true ∧ before.scene.session.knowsHost host = false
      · exact (invokes.ssh_asks_host reached authorized unknown).1
      · exact (invokes.ssh_asks_password reached authorized (trusts unknown)).1
  · intro unreached
    obtain ⟨cause, ran⟩ := Command.ssh_refuses unreached
    exact invokes.refuses notes ran
  · intro user host reached authorized
    exact (invokes.ssh_connects reached authorized).2
  · intro user host reached unauthorized unknown
    exact (invokes.ssh_asks_host reached unauthorized unknown).2
  · intro user host reached unauthorized trusted
    exact (invokes.ssh_asks_password reached unauthorized (trusts trusted)).2

theorem sshCopyId_asks (invokes : Invokes lesson before input .sshCopyId args) {publicKey user host : String}
    (key : KeyPair.find? before.scene.vfs before.scene.session.home = some publicKey)
    (reached : lesson.target.Reached args user host) :
    before.outcome? input = some (.ok .silent) ∧
      Leaves before before.scene.session before.scene.vfs
        (if before.scene.session.isAuthorized user host then none else some (.password .copyId user host))
        (before.submit input).1 ∧
      (before.submit input).2 = [before.callEvent input "ssh-copy-id" args] := by
  let scene : Scene (Dialogue C) := before.callScene input "ssh-copy-id" args
  have found : KeyPair.find? scene.vfs scene.session.home = some publicKey := key
  cases authorized : before.scene.session.isAuthorized user host with
  | true =>
    obtain ⟨entries, ran⟩ := Command.installKey_skips lesson (Text.trimmed input) publicKey scene authorized
    rw [← Command.run_sshCopyId_of_reached found reached] at ran
    exact ⟨invokes.outcome ran, invokes.leaves ran (by exact invokes.idle) (List.append_nil _).symm⟩
  | false =>
    obtain ⟨entries, ran⟩ := Command.installKey_asks lesson (Text.trimmed input) publicKey scene
      invokes.idle (Bool.eq_false_iff.mp authorized)
    rw [← Command.run_sshCopyId_of_reached found reached] at ran
    exact ⟨invokes.outcome ran, invokes.leaves ran rfl (List.append_nil _).symm⟩

theorem sshCopyId_outcome (invokes : Invokes lesson before input .sshCopyId args) (notes : NotesMask before)
    (consistent : before.scene.vfs.Consistent) :
    CopyIdOutcome lesson.target before input args (before.submit input) := by
  have key (offered : KeyPair.Offered before.scene.vfs before.scene.session.home) :=
    Option.isSome_iff_exists.mp ((KeyPair.find?_isSome_iff consistent).mpr offered)
  have refused (unready : ¬ (KeyPair.Offered before.scene.vfs before.scene.session.home ∧
      ∃ user host, lesson.target.Reached args user host)) :
      ∃ failure, before.outcome? input = some (.error failure) ∧
        Refuses before input "ssh-copy-id" args (before.submit input) := by
    rw [← KeyPair.find?_isSome_iff consistent] at unready
    obtain ⟨cause, ran⟩ := Command.sshCopyId_refuses (Text.trimmed input)
      (before.callScene input "ssh-copy-id" args) unready
    exact ⟨_, invokes.outcome ran, invokes.refuses notes ran⟩
  refine ⟨⟨?_, ?_⟩, ?_, ?_, ?_⟩
  · rintro ⟨output, done⟩
    by_contra unready
    obtain ⟨failure, failed, -⟩ := refused unready
    rw [failed] at done
    cases done
  · rintro ⟨offered, user, host, reached⟩
    obtain ⟨publicKey, found⟩ := key offered
    exact ⟨_, (invokes.sshCopyId_asks found reached).1⟩
  · intro unready
    obtain ⟨failure, -, refuses⟩ := refused unready
    exact refuses
  · intro user host offered reached
    obtain ⟨publicKey, found⟩ := key offered
    exact (invokes.sshCopyId_asks found reached).2
  · by_cases ready : KeyPair.Offered before.scene.vfs before.scene.session.home ∧
      ∃ user host, lesson.target.Reached args user host
    · obtain ⟨offered, user, host, reached⟩ := ready
      obtain ⟨publicKey, found⟩ := key offered
      obtain ⟨-, leaves, -⟩ := invokes.sshCopyId_asks found reached
      exact ⟨leaves.vfs, _, leaves.session⟩
    · obtain ⟨failure, -, refuses⟩ := refused ready
      exact ⟨refuses.vfs, _, refuses.session⟩

end Invokes

variable [CustomDialogue C]

/-- In every state that waits for a line, `ssh` and `ssh-copy-id` proceed exactly if their arguments
reach the target, the second with a key pair only. -/
theorem target_attempted {terminal : Terminal C} (opens : Opens lesson terminal) (steps : List Step)
    (idle : (terminal.after steps).scene.dialogue = none) (words : Text.words input = word :: args) :
    let before := terminal.after steps
    let turn := before.submit input
    (Text.foldCase word = "ssh" → SshOutcome lesson.target before input args turn) ∧
    (Text.foldCase word = "ssh-copy-id" → CopyIdOutcome lesson.target before input args turn) := by
  intro before turn
  obtain ⟨sound, quiet, _⟩ := opens.poised_after steps
  have notes := opens.notesMask_after steps
  have invokes {command : Command C} (member : command ∈ Registry.standardCommands)
      (other : command.name ≠ "echo") (named : Text.foldCase word = command.name) :
      Invokes lesson before input command args :=
    invokes_standard sound.about sound.registry idle quiet member other words named
  constructor
  · intro named
    have ssh := invokes ssh_member (by simp [Command.ssh]) named
    exact ssh.ssh_outcome notes
  · intro named
    have sshCopyId := invokes sshCopyId_member (by simp [Command.sshCopyId]) named
    exact sshCopyId.sshCopyId_outcome notes sound.stands.consistent

/-- Lines that make a key pair under the name that is offered, without a passphrase. -/
private def keyMaking : List Step := [.submit "ssh-keygen", .submit "", .submit "", .submit ""]

theorem target_attempted_with_key : ∃ terminal : Terminal Empty, Opens Lesson.default terminal ∧
    let before := terminal.after keyMaking
    before.scene.dialogue = none ∧
    (before.submit "SSH -v -p 2222 -p22 alumno@192.168.1.43").1.scene.dialogue =
      some (.builtin (.hostKey "alumno" "192.168.1.43")) ∧
    (before.submit "ssh-copy-id alumno@192.168.1.43").1.scene.dialogue =
      some (.builtin (.password .copyId "alumno" "192.168.1.43")) := by
  obtain ⟨terminal, accepted⟩ := exists_new_default (C := Empty)
  have opens : Opens Lesson.default terminal := ⟨terminal, accepted, .inl rfl⟩
  have ran : (Terminal.new (C := Empty) Lesson.default).toOption.map (fun fresh =>
      let before := fresh.after keyMaking
      (before.scene.dialogue.isNone, (KeyPair.find? before.scene.vfs before.scene.session.home).isSome,
        before.scene.session.isAuthorized "alumno" "192.168.1.43",
        before.scene.session.knowsHost "192.168.1.43")) = some (true, true, false, false) := by decide +kernel
  rw [accepted] at ran
  obtain ⟨waits, key, unauthorized, unknown⟩ : _ ∧ _ ∧ _ ∧ _ := by simpa using Option.some.inj ran
  have first : Text.words "SSH -v -p 2222 -p22 alumno@192.168.1.43" =
      "SSH" :: ["-v", "-p", "2222", "-p22", "alumno@192.168.1.43"] := by decide +kernel
  have second : Text.words "ssh-copy-id alumno@192.168.1.43" = "ssh-copy-id" :: ["alumno@192.168.1.43"] := by
    decide +kernel
  have twice : Lesson.default.target.Reached ["-v", "-p", "2222", "-p22", "alumno@192.168.1.43"]
      "alumno" "192.168.1.43" :=
    (Target.reached_iff "ssh").mpr ⟨⟨some "alumno@192.168.1.43", some 22⟩, _, by rfl, rfl, by rfl⟩
  have never : Lesson.default.target.Reached ["alumno@192.168.1.43"] "alumno" "192.168.1.43" :=
    (Target.reached_iff "ssh-copy-id").mpr ⟨⟨some "alumno@192.168.1.43", none⟩, _, by rfl, rfl, by rfl⟩
  have offered := (KeyPair.find?_isSome_iff (opens.sound.after keyMaking).stands.consistent).mp key
  refine ⟨terminal, opens, waits, ?_, ?_⟩
  · have outcome := (target_attempted opens _ waits first).1 (by decide +kernel)
    exact (outcome.asksHost twice unauthorized ⟨rfl, unknown⟩).1.dialogue
  · have outcome := (target_attempted opens _ waits second).2 (by decide +kernel)
    have asks := (outcome.asks offered never).1.dialogue
    rw [unauthorized] at asks
    exact asks

end Terminal
end LessonShell

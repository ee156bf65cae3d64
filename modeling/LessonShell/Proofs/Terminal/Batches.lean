import LessonShell.Proofs.Terminal.Questions
import LessonShell.Proofs.Text.Words

/-! The events of one turn. A command line is announced before anything else, under the
identity that typed it, whether or not it is understood; at most two events follow. An
answer to a question is never announced as a command. -/
namespace LessonShell

/-- What a command line announces after itself. -/
inductive Aftermath : List Event → Prop
  | nothing : Aftermath []
  | connected (user host : String) : Aftermath [.connected user host .key]
  | appended (target content : String) : Aftermath [.fileAppend target content]
  | accepted (target content : String) : Aftermath [.fileAppend target content, .keysCopied]

/-- What an answer to a question announces. -/
inductive Settlement : List Event → Prop
  | nothing : Settlement []
  | connected (user host : String) : Settlement [.connected user host .password]
  | installed : Settlement [.keysCopied]
  | generated : Settlement [.keygenDone]

section turns
variable {lesson : Lesson} {line name : String} {args : List String} {session after : Session}
  {vfs changed : Vfs} {next : Option Prompt} {events : List Event}

theorem Effect.aftermath {result : Except Failure CommandOutput}
    (effect : Effect lesson line session vfs name args result after changed next events) :
    Aftermath events := by
  cases effect with
  | appended request => exact .appended _ _
  | keyRefused request short => exact .appended _ _
  | keyAccepted request long => exact .accepted _ _
  | connected read target reached authorized => exact .connected _ _
  | _ => exact .nothing

theorem Reply.settlement {prompt : Prompt} {failure : Option Failure}
    (reply : Reply lesson session vfs line prompt failure after changed next events) :
    Settlement events := by
  cases reply with
  | loggedIn right => exact .connected _ _
  | installed right => exact .installed
  | keyWritten done => exact .generated
  | _ => exact .nothing

theorem Settlement.no_command (settlement : Settlement events) : ∀ event ∈ events, event.kind ≠ "command" := by
  cases settlement <;> simp [Event.kind]

end turns

namespace Terminal
variable {C : Type} [CustomDialogue C] {lesson : Lesson}

/-- After every run of lines and resets, a blank line without a question changes nothing and
announces nothing; any other line without a question is announced first, word by word and
under the identity before it; a line that answers a question is not announced at all. -/
theorem batch_shape {terminal : Terminal C} (opens : Opens lesson terminal) (steps : List Step)
    (input : String) :
    let before := terminal.after steps
    let line := Text.trimmed input
    match before.scene.dialogue with
    | none =>
      if line = "" then before.submit input = (before, [])
      else ∃ first args rest, Text.words line = first :: args ∧ Aftermath rest ∧
        (before.submit input).2 = .command (Text.foldCase first) line args
          before.scene.session.user before.scene.session.host :: rest
    | some _ => (∀ event ∈ (before.submit input).2, event.kind ≠ "command") ∧
      Settlement (before.submit input).2 := by
  intro before line
  have poised : Poised lesson before := opens.poised_after steps
  cases poised.sound.turn input with
  | blank idle empty same silent =>
    rw [idle]
    dsimp only
    rw [if_pos empty]
    exact Prod.ext same silent
  | command idle filled effect leaves batch =>
    rw [poised.quiet, List.nil_append] at batch
    obtain ⟨first, args, found⟩ := List.exists_cons_of_ne_nil (Text.words_ne_nil filled)
    have words : Text.words line = first :: args := (Text.words_trimmed input).trans found
    rw [idle]
    dsimp only
    rw [if_neg filled]
    refine ⟨first, args, _, words, effect.aftermath, ?_⟩
    rw [batch, words]
    rfl
  | answer active reply leaves batch =>
    rw [poised.quiet, List.nil_append] at batch
    have settlement := reply.settlement
    rw [← batch] at settlement
    rw [active]
    exact ⟨settlement.no_command, settlement⟩

theorem batch_of_accepted_key : ∃ terminal : Terminal Empty, Opens Lesson.default terminal ∧
    ((terminal.after [.submit "cd ..", .reset]).submit " Echo ssh-rsa AAA  >> .ssh/authorized_keys").2 =
      [.command "echo" "Echo ssh-rsa AAA  >> .ssh/authorized_keys"
        ["ssh-rsa", "AAA", ">>", ".ssh/authorized_keys"] "alumno" "laptop-local",
        .fileAppend ".ssh/authorized_keys" "ssh-rsa AAA", .keysCopied] ∧
    Aftermath [.fileAppend ".ssh/authorized_keys" "ssh-rsa AAA", .keysCopied] := by
  obtain ⟨fresh, accepted⟩ := exists_new_default (C := Empty)
  have opens : Opens Lesson.default (fresh.editRegistry Registry.addAuthorizedKeysEcho) :=
    ⟨fresh, accepted, .inr rfl⟩
  have heard : (Terminal.new (C := Empty) Lesson.default).toOption.map (fun fresh =>
      let before := (fresh.editRegistry Registry.addAuthorizedKeysEcho).after [.submit "cd ..", .reset]
      (before.scene.dialogue, (before.submit " Echo ssh-rsa AAA  >> .ssh/authorized_keys").2)) =
        some (none, [.command "echo" "Echo ssh-rsa AAA  >> .ssh/authorized_keys"
          ["ssh-rsa", "AAA", ">>", ".ssh/authorized_keys"] "alumno" "laptop-local",
          .fileAppend ".ssh/authorized_keys" "ssh-rsa AAA", .keysCopied]) := by decide +kernel
  rw [accepted] at heard
  obtain ⟨idle, events⟩ := Prod.mk.inj (Option.some.inj heard)
  have shape := batch_shape opens [.submit "cd ..", .reset] " Echo ssh-rsa AAA  >> .ssh/authorized_keys"
  have filled : Text.trimmed " Echo ssh-rsa AAA  >> .ssh/authorized_keys" ≠ "" := by decide
  dsimp only at shape
  rw [idle] at shape
  dsimp only at shape
  rw [if_neg filled] at shape
  obtain ⟨first, args, rest, words, aftermath, batch⟩ := shape
  rw [events] at batch
  obtain rfl := (List.cons.inj batch).2
  exact ⟨_, opens, events, aftermath⟩

end Terminal
end LessonShell

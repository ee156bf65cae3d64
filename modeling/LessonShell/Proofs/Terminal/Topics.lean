import LessonShell.Proofs.Shell.Registrations
import LessonShell.Proofs.Terminal.Runs
import LessonShell.Script

/-! The topics that `help` knows. They are the names that a line can call, whatever was registered
in whichever order and in whichever case the name is written. -/
namespace LessonShell
variable {C : Type}

/-- Where the line that calls a name goes. -/
inductive Destination (C : Type) where
  | help
  | handler (command : Command C)
  | unknown

/-- What a line that goes there does. -/
def Destination.program (registry : Registry C) (name : String) (args : List String) :
    Destination C → Program (Dialogue C) CommandOutput
  | .help => Program.ofParse (registry.help args)
  | .handler command => command.execute args
  | .unknown => Program.refuse (.unknownCommand name)

namespace Registry

def destination (registry : Registry C) (name : String) : Destination C :=
  if name = "help" ∧ ¬ registry.isCustom "help" then .help
  else (registry.find? name).elim .unknown .handler

theorem dispatch_eq_program (registry : Registry C) (name : String) (args : List String) :
    registry.dispatch name args = (registry.destination name).program registry name args := by
  rw [dispatch, destination]
  split
  · rfl
  · cases registry.find? name <;> rfl

theorem destination_ne_unknown_iff {registry : Registry C} {name : String} :
    registry.destination name ≠ .unknown ↔
      name = "help" ∧ registry.isCustom "help" = false ∨ (registry.find? name).isSome = true := by
  unfold destination
  split
  · next asked => simp [asked]
  · next other =>
    rw [Bool.not_eq_true] at other
    cases registry.find? name <;> simp [other]

theorem help_topic_ok_iff {registry : Registry C} (plain : registry.isCustom "help" = false)
    (topic : String) (rest : List String) :
    (∃ output, registry.help (topic :: rest) = .ok output) ↔
      registry.destination (Text.foldCase topic) ≠ .unknown := by
  rw [destination_ne_unknown_iff, help]
  split
  · next asked => simp [asked, plain]
  · next other => cases registry.find? (Text.foldCase topic) <;> simp [other]

end Registry

namespace Terminal

theorem help_outcome {terminal : Terminal C} (idle : terminal.scene.dialogue = none)
    (plain : terminal.registry.isCustom "help" = false) {asking asked : String} {topics : List String}
    (words : Text.words asking = asked :: topics) (help : Text.foldCase asked = "help") :
    terminal.outcome? asking = some ((terminal.registry.help topics).mapError .command) := by
  refine outcome?_eq_some_iff.mpr ⟨idle, filled_of_words words, ?_⟩
  rw [called, calledName_of_words words, calledArgs_of_words words, help, Registry.dispatch,
    if_pos ⟨rfl, by simp [plain]⟩]
  cases terminal.registry.help topics <;> rfl

/-- Whatever was registered: a lookup finds the last command of the name, a custom one before a
built-in, the listings show what is found, and `help` knows exactly the topics that a line can
call, unless a custom command answers it. -/
theorem registrations_answer (calls : List (Registration C)) :
    let registry := Registry.registered calls
    (∀ name, registry.find? name =
      (Command.lastNamed? (calls.filterMap Registration.custom?) name).or
        (Command.lastNamed? (calls.filterMap Registration.builtin?) name)) ∧
    (∀ name, registry.isCustom name = true ↔
      ∃ command ∈ calls.filterMap Registration.custom?, command.key = name) ∧
    registry.Listed ∧
    (∀ name args, registry.dispatch name args = (registry.destination name).program registry name args) ∧
    ∀ terminal : Terminal C, terminal.registry = registry → terminal.scene.dialogue = none →
      registry.isCustom "help" = false →
      ∀ {asking asked topic calling : String} {rest : List String},
        Text.words asking = asked :: topic :: rest → Text.foldCase asked = "help" →
        (Text.words calling).head? = some topic →
        ((∃ output, terminal.outcome? asking = some (.ok output)) ↔
          registry.destination (calledName calling) ≠ .unknown) := by
  intro registry
  refine ⟨Registry.registered_find? calls, Registry.registered_isCustom_iff calls,
    (Registry.registered_keyed calls).listed, registry.dispatch_eq_program, ?_⟩
  intro terminal same idle plain asking asked topic calling rest words help calls
  have outcome := help_outcome idle (same ▸ plain) words help
  have name : calledName calling = Text.foldCase topic := by
    rw [calledName, Text.words_trimmed, List.headD_eq_head?_getD, calls, Option.getD_some]
  rw [name, outcome, same, ← Registry.help_topic_ok_iff plain topic rest]
  cases registry.help (topic :: rest) with
  | error cause => simp [Except.mapError]
  | ok shown => simp [Except.mapError]

/-- A topic that a function was registered for in other letters, and one that nobody knows. -/
theorem registrations_answer_sudo :
    let calls : List (Registration ScriptedDialogue) :=
      Registry.standardCommands.map .builtin ++ [.handler "Sudo" "" fun _ => return .silent]
    ∃ fresh : Terminal ScriptedDialogue, Terminal.new Lesson.default = .ok fresh ∧
      let terminal := fresh.editRegistry (·.registerCustom (.ofHandler "Sudo" "" fun _ => return .silent))
      terminal.registry = Registry.registered calls ∧ terminal.scene.dialogue = none ∧
      terminal.registry.isCustom "help" = false ∧
      (∃ output, terminal.outcome? "Help SUDO now" = some (.ok output)) ∧
      ¬ ∃ output, terminal.outcome? "help sudoers" = some (.ok output) := by
  intro calls
  obtain ⟨fresh, accepted⟩ := exists_new_default (C := ScriptedDialogue)
  refine ⟨fresh, accepted, ?_⟩
  obtain ⟨_, vfs, _, rfl⟩ := new_eq_ok_iff.mp accepted
  intro terminal
  have registry : terminal.registry = Registry.registered calls := by
    rw [Registry.registered_concat, ← Registry.standard_eq]
    rfl
  have plain : (Registry.registered calls).isCustom "help" = false := by decide +kernel
  have known : ((Registry.registered calls).find? "sudo").isSome = true := by decide +kernel
  have unknown : ((Registry.registered calls).find? "sudoers").isSome = false := by decide +kernel
  have written : calledName "SUDO" = "sudo" := by decide +kernel
  have missing : calledName "sudoers" = "sudoers" := by decide +kernel
  obtain ⟨_, _, _, _, topics⟩ := registrations_answer calls
  have first : Text.words "Help SUDO now" = "Help" :: "SUDO" :: ["now"] := by decide +kernel
  have second : Text.words "help sudoers" = "help" :: "sudoers" :: [] := by decide +kernel
  refine ⟨registry, rfl, registry ▸ plain, ?_, ?_⟩
  · refine (topics terminal registry rfl plain first (by decide +kernel) (by decide +kernel :
      (Text.words "SUDO").head? = some "SUDO")).mpr ?_
    rw [written, Registry.destination_ne_unknown_iff]
    exact .inr known
  · refine (topics terminal registry rfl plain second (by decide +kernel) (by decide +kernel :
      (Text.words "sudoers").head? = some "sudoers")).not.mpr ?_
    rw [missing, Registry.destination_ne_unknown_iff, unknown]
    simp

end Terminal
end LessonShell

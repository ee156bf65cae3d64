import LessonShell.Proofs.Terminal.Runs
import LessonShell.Proofs.Text.Words

/-! Lines that succeed without a word. A terminal that waits for a line carries out the
command that the line spells; each silent `cd`, `mkdir` or `mv` extends a run by one line. -/
namespace LessonShell

namespace Command
variable {C : Type} {line : String} {lesson : Lesson} {scene : Scene (Dialogue C)}

theorem run_cd_home (directory : scene.vfs.isDir scene.session.home = true) :
    (cd.execute []).run line lesson scene =
      (.ok .silent, { scene with session := { scene.session with cwd := scene.session.home } }) := by
  simp only [cd, Program.run_view_bind, if_pos directory]
  rfl

theorem run_cd_up (deep : 1 < (Path.ofText scene.session.cwd).length) :
    (cd.execute [".."]).run line lesson scene = (.ok .silent,
      { scene with session := { scene.session with cwd := PathText.parent scene.session.cwd } }) := by
  simp only [cd, Program.run_view_bind, if_pos deep]
  rfl

theorem run_cd_to {arg : String} (down : arg ≠ "..")
    (directory : scene.vfs.isDir (PathText.resolve scene.session.cwd arg) = true) :
    (cd.execute [arg]).run line lesson scene = (.ok .silent,
      { scene with session := { scene.session with cwd := PathText.resolve scene.session.cwd arg } }) := by
  simp only [cd, Program.run_view_bind, if_neg down, if_pos directory]
  rfl

theorem run_mkdir {name : String} (simple : (Text.contains name "/" || Text.contains name "..") = false)
    (named : name ≠ ".") {after : Vfs}
    (fresh : scene.vfs.has (PathText.join scene.session.cwd name) = false)
    (done : scene.vfs.mkdir (PathText.join scene.session.cwd name) = (.ok (), after)) :
    (mkdir.execute [name]).run line lesson scene = (.ok .silent, { scene with vfs := after }) := by
  have free : ¬ (name = "." ∨ scene.vfs.has (PathText.join scene.session.cwd name) = true) := by
    simp [named, fresh]
  simp only [mkdir, simple, Bool.false_eq_true, if_false, Program.run_view_bind, if_neg free, done]
  rfl

theorem run_mv {source dest : String} {names : List String} {after : Vfs}
    (listing : scene.vfs.children scene.session.cwd = .ok names) (listed : source ∈ names)
    (apart : ¬ continues scene.session.home (PathText.join scene.session.cwd source) = true)
    (directory : scene.vfs.isDir (PathText.resolve scene.session.cwd dest) = true)
    (moves : PathText.join (PathText.resolve scene.session.cwd dest) source ≠
      PathText.join scene.session.cwd source)
    (outside : ¬ continues (PathText.resolve scene.session.cwd dest)
      (PathText.join scene.session.cwd source) = true)
    (free : ¬ scene.vfs.has (PathText.join (PathText.resolve scene.session.cwd dest) source) = true)
    (done : scene.vfs.rename (PathText.join scene.session.cwd source)
      (PathText.join (PathText.resolve scene.session.cwd dest) source) = (.ok (), after)) :
    (mv.execute [source, dest]).run line lesson scene =
      (.ok .silent, { scene with vfs := after }) := by
  unfold mv
  dsimp only
  rw [Program.run_view_bind, Program.run_bind]
  simp only [listing, Program.ofVfs, Program.run, listed, not_true_eq_false, if_false,
    if_neg apart, if_pos directory, moveInto, if_neg moves, if_neg outside, if_neg free, done]
  rfl

end Command

namespace Terminal
variable {C : Type} {terminal : Terminal C} {home cwd : String} {vfs : Vfs}

/-- A terminal with the standard commands waits for a line with this home, working
directory and files. -/
structure Waits (terminal : Terminal C) (home cwd : String) (vfs : Vfs) : Prop where
  registry : terminal.registry = .standard
  idle : terminal.scene.dialogue = none
  home : terminal.scene.session.home = home
  cwd : terminal.scene.session.cwd = cwd
  vfs : terminal.scene.vfs = vfs

def callLine (name : String) (args : List String) : String := " ".intercalate (name :: args)

private theorem cd_member : (Command.cd : Command C) ∈ Registry.standardCommands := by
  simp [Registry.standardCommands]

theorem callLine_reads {command : Command C} (member : command ∈ Registry.standardCommands)
    {args : List String} (all : ∀ arg ∈ args, Text.IsWord arg) :
    Text.words (callLine command.name args) = command.name :: args ∧
      Text.trimmed (callLine command.name args) = callLine command.name args := by
  have named : command.name ∈ Registry.standardNames := by
    rw [← Registry.standard_names (C := C)]
    exact List.mem_map_of_mem member
  have word : Text.IsWord command.name :=
    (by decide : ∀ name ∈ Registry.standardNames, Text.IsWord name) _ named
  have words : ∀ name ∈ command.name :: args, Text.IsWord name := List.forall_mem_cons.mpr ⟨word, all⟩
  exact ⟨Text.words_intercalate words, Text.trimmed_intercalate words⟩

variable [CustomDialogue C]

theorem submit_call (registry : terminal.registry = .standard) (idle : terminal.scene.dialogue = none)
    {command : Command C} (member : command ∈ Registry.standardCommands) {args : List String}
    (all : ∀ arg ∈ args, Text.IsWord arg) {result : Except Failure CommandOutput} {after : Scene (Dialogue C)}
    (ran : (command.execute args).run (callLine command.name args) terminal.lesson
      (acknowledge terminal.scene (callLine command.name args) command.name args) = (result, after)) :
    terminal.submit (callLine command.name args) = terminal.endTurn (after.conclude result) := by
  obtain ⟨words, kept⟩ := callLine_reads member all
  have small : Text.foldCase command.name = command.name := Registry.standard_key member
  rw [submit_of_filled idle (filled_of_words words), called, calledName_of_words words,
    calledArgs_of_words words, kept, small, registry, Registry.standard_dispatch member, ran]

theorem submit_call_leaves (registry : terminal.registry = .standard) (idle : terminal.scene.dialogue = none)
    {command : Command C} (member : command ∈ Registry.standardCommands) {args : List String}
    (all : ∀ arg ∈ args, Text.IsWord arg) {result : Except Failure CommandOutput} {after : Scene (Dialogue C)}
    (ran : (command.execute args).run (callLine command.name args) terminal.lesson
      (acknowledge terminal.scene (callLine command.name args) command.name args) = (result, after))
    {prompt : Option Prompt} (dialogue : after.dialogue = prompt.map .builtin) :
    Leaves terminal after.session after.vfs prompt (terminal.submit (callLine command.name args)).1 := by
  obtain ⟨session, files, kept, _⟩ := conclude_same after result
  rw [submit_call registry idle member all ran, ← session, ← files]
  exact endTurn_leaves (kept.trans dialogue)

theorem Waits.call (waits : terminal.Waits home cwd vfs) {command : Command C}
    (member : command ∈ Registry.standardCommands) {args : List String}
    (all : ∀ arg ∈ args, Text.IsWord arg) {next : String} {after : Vfs}
    (silent : ∀ line (scene : Scene (Dialogue C)), scene.session.home = home →
      scene.session.cwd = cwd → scene.vfs = vfs → (command.execute args).run line terminal.lesson scene =
        (.ok .silent, { scene with session := { scene.session with cwd := next }, vfs := after })) :
    (terminal.submit (callLine command.name args)).1.Waits home next after := by
  have ran := silent (callLine command.name args)
    (acknowledge terminal.scene (callLine command.name args) command.name args) waits.home waits.cwd waits.vfs
  rw [submit_call waits.registry waits.idle member all ran]
  exact ⟨waits.registry, waits.idle, waits.home, rfl, rfl⟩

theorem Waits.submit_cd (waits : terminal.Waits home cwd vfs) (directory : vfs.isDir home = true) :
    (terminal.submit "cd").1.scene.session.cwd = home ∧
      (terminal.submit "cd").1.scene.transcript = terminal.scene.transcript ++
        [.command "cd" terminal.scene.session.user terminal.scene.session.host] := by
  let shown := acknowledge terminal.scene "cd" (Command.cd : Command C).name []
  have none : ∀ arg ∈ ([] : List String), Text.IsWord arg := nofun
  have found : shown.vfs.isDir shown.session.home = true := by
    rw [← waits.vfs, ← waits.home] at directory
    exact directory
  have ran : (Command.cd.execute []).run "cd" terminal.lesson shown = _ := Command.run_cd_home found
  have called : terminal.submit "cd" = _ := submit_call waits.registry waits.idle cd_member none ran
  rw [called]
  exact ⟨waits.home, rfl⟩

def Reaches (terminal : Terminal C) (home cwd : String) (vfs : Vfs) : Prop :=
  ∃ steps, (terminal.after steps).Waits home cwd vfs

namespace Reaches

theorem call (reaches : terminal.Reaches home cwd vfs) {command : Command C}
    (member : command ∈ Registry.standardCommands) {args : List String}
    (all : ∀ arg ∈ args, Text.IsWord arg) {next : String} {after : Vfs}
    (silent : ∀ line lesson (scene : Scene (Dialogue C)), scene.session.home = home →
      scene.session.cwd = cwd → scene.vfs = vfs → (command.execute args).run line lesson scene =
        (.ok .silent, { scene with session := { scene.session with cwd := next }, vfs := after })) :
    terminal.Reaches home next after := by
  obtain ⟨steps, waits⟩ := reaches
  refine ⟨steps ++ [.submit (callLine command.name args)], ?_⟩
  rw [after_append]
  exact waits.call member all fun line scene => silent line _ scene

theorem goHome (reaches : terminal.Reaches home cwd vfs) (directory : vfs.isDir home = true) :
    terminal.Reaches home home vfs := by
  have none : ∀ arg ∈ ([] : List String), Text.IsWord arg := nofun
  refine reaches.call cd_member none ?_
  intro line lesson scene sameHome sameCwd sameVfs
  rw [← sameHome, ← sameVfs] at directory
  rw [Command.run_cd_home directory, ← sameHome, ← sameVfs]

theorem goUp (reaches : terminal.Reaches home cwd vfs) (deep : 1 < (Path.ofText cwd).length) :
    terminal.Reaches home (PathText.parent cwd) vfs := by
  have dots : ∀ arg ∈ [".."], Text.IsWord arg := by decide
  refine reaches.call cd_member dots ?_
  intro line lesson scene sameHome sameCwd sameVfs
  rw [← sameCwd] at deep
  rw [Command.run_cd_up deep, ← sameCwd, ← sameVfs]

theorem enter (reaches : terminal.Reaches home cwd vfs) {arg : String} (word : Text.IsWord arg)
    (down : arg ≠ "..") (directory : vfs.isDir (PathText.resolve cwd arg) = true) :
    terminal.Reaches home (PathText.resolve cwd arg) vfs := by
  have one : ∀ name ∈ [arg], Text.IsWord name := by simpa using word
  refine reaches.call cd_member one ?_
  intro line lesson scene sameHome sameCwd sameVfs
  rw [← sameCwd, ← sameVfs] at directory
  rw [Command.run_cd_to down directory, ← sameCwd, ← sameVfs]

theorem make (reaches : terminal.Reaches home cwd vfs) {name : String} (word : Text.IsWord name)
    (simple : (Text.contains name "/" || Text.contains name "..") = false) (named : name ≠ ".")
    (fresh : vfs.has (PathText.join cwd name) = false) {after : Vfs}
    (done : vfs.mkdir (PathText.join cwd name) = (.ok (), after)) : terminal.Reaches home cwd after := by
  have member : (Command.mkdir : Command C) ∈ Registry.standardCommands := by
    simp [Registry.standardCommands]
  have one : ∀ arg ∈ [name], Text.IsWord arg := by simpa using word
  refine reaches.call member one ?_
  intro line lesson scene sameHome sameCwd sameVfs
  rw [← sameCwd, ← sameVfs] at fresh done
  rw [Command.run_mkdir simple named fresh done, ← sameCwd]

theorem move (reaches : terminal.Reaches home cwd vfs) {source dest : String} {names : List String}
    (wordSource : Text.IsWord source) (wordDest : Text.IsWord dest)
    (listing : vfs.children cwd = .ok names) (listed : source ∈ names)
    (apart : ¬ Command.continues home (PathText.join cwd source) = true)
    (directory : vfs.isDir (PathText.resolve cwd dest) = true)
    (moves : PathText.join (PathText.resolve cwd dest) source ≠ PathText.join cwd source)
    (outside : ¬ Command.continues (PathText.resolve cwd dest) (PathText.join cwd source) = true)
    (free : ¬ vfs.has (PathText.join (PathText.resolve cwd dest) source) = true) {after : Vfs}
    (done : vfs.rename (PathText.join cwd source) (PathText.join (PathText.resolve cwd dest) source) =
      (.ok (), after)) : terminal.Reaches home cwd after := by
  have member : (Command.mv : Command C) ∈ Registry.standardCommands := by
    simp [Registry.standardCommands]
  have two : ∀ arg ∈ [source, dest], Text.IsWord arg := by
    simpa using ⟨wordSource, wordDest⟩
  refine reaches.call member two ?_
  intro line lesson scene sameHome sameCwd sameVfs
  subst sameHome sameCwd sameVfs
  rw [Command.run_mv listing listed apart directory moves outside free done]

end Reaches
end Terminal
end LessonShell

import LessonShell.Proofs.Terminal.Runs
import LessonShell.Proofs.Vfs.Requests

/-! The working directory exists at all times. A login keeps it, `cd` enters only existing
directories or one above, and a move takes an entry out of it but never the directory
itself; the files stay consistent under whatever a line can do to them. -/
namespace LessonShell

structure Stands (session : Session) (vfs : Vfs) : Prop where
  consistent : vfs.Consistent
  cwd : vfs.IsDirectory (Path.ofText session.cwd)

theorem Vfs.Consistent.above_isDirectory {vfs : Vfs} (consistent : vfs.Consistent) {text : String}
    (directory : vfs.IsDirectory (Path.ofText text)) :
    vfs.IsDirectory (Path.ofText (PathText.parent text)) := by
  rcases PathText.ofText_parent text with same | above
  · exact same ▸ directory
  · rw [above]
    exact consistent.isDirectory_of_within (Path.parent_within _) directory

section turns
variable {lesson : Lesson} {line name : String} {args : List String} {session after : Session}
  {vfs changed : Vfs} {events : List Event}

theorem rename_listed {source destination : String} {names : List String} (consistent : vfs.Consistent)
    (listing : vfs.children session.cwd = .ok names) (listed : source ∈ names)
    (done : vfs.rename (PathText.join session.cwd source) destination = (.ok (), changed)) {path : Path}
    (directory : vfs.IsDirectory path)
    (outside : ¬ (Path.ofText session.cwd).child source <+: path) : changed.IsDirectory path := by
  have found := Vfs.children_eq_ok_iff.mp listing
  have segment := consistent.segments found source listed
  rcases Vfs.renamed_of_rename consistent done with ⟨_, rfl⟩ | ⟨movable, effect⟩
  · exact directory
  · rw [PathText.ofText_join_segment session.cwd segment] at movable effect
    exact effect.isDirectory consistent movable directory outside

theorem Effect.stands {result : Except Failure CommandOutput} {prompt : Option Prompt}
    (effect : Effect lesson line session vfs name args result after changed prompt events)
    (stands : Stands session vfs) : Stands after changed := by
  obtain ⟨consistent, cwd⟩ := stands
  cases effect with
  | wentHome home => exact ⟨consistent, Vfs.isDir_iff.mp home⟩
  | wentUp deep => exact ⟨consistent, consistent.above_isDirectory cwd⟩
  | wentTo there => exact ⟨consistent, Vfs.isDir_iff.mp there⟩
  | madeDirectory done =>
    have growth := Vfs.mkdir_growth consistent done
    exact ⟨growth.consistent (Path.normal_ofText _) consistent, growth.isDirectory cwd⟩
  | touched done =>
    have growth := Vfs.touch_growth consistent done
    exact ⟨growth.consistent (Path.normal_ofText _) consistent, growth.isDirectory cwd⟩
  | moved listing listed apart done =>
    refine ⟨Vfs.rename_consistent consistent done, ?_⟩
    exact rename_listed consistent listing listed done cwd (Path.not_child_within _ _)
  | _ => exact ⟨consistent, cwd⟩

theorem Effect.home_eq {result : Except Failure CommandOutput} {prompt : Option Prompt}
    (effect : Effect lesson line session vfs name args result after changed prompt events) :
    after.home = session.home := by
  cases effect <;> rfl

theorem Reply.files {prompt : Prompt} {failure : Option Failure} {next : Option Prompt}
    (reply : Reply lesson session vfs line prompt failure after changed next events) :
    changed = vfs ∨ ∃ algorithm keyName comment, prompt = .keygen .confirm algorithm keyName ∧
      changed = (KeyPair.install vfs session.home keyName algorithm comment).2 := by
  cases reply with
  | keyWritten done => exact .inr ⟨_, _, _, rfl, by rw [done]⟩
  | keyFailed done => exact .inr ⟨_, _, _, rfl, by rw [done]⟩
  | _ => exact .inl rfl

theorem Reply.consistent {prompt : Prompt} {failure : Option Failure} {next : Option Prompt}
    (reply : Reply lesson session vfs line prompt failure after changed next events)
    (consistent : vfs.Consistent) : changed.Consistent := by
  rcases reply.files with same | ⟨algorithm, keyName, comment, _, same⟩
  · exact same ▸ consistent
  · exact same ▸ Vfs.install_consistent consistent _ _ _ _

theorem Reply.isDirectory {prompt : Prompt} {failure : Option Failure} {next : Option Prompt}
    (reply : Reply lesson session vfs line prompt failure after changed next events)
    (consistent : vfs.Consistent) {path : Path} (directory : vfs.IsDirectory path) :
    changed.IsDirectory path := by
  rcases reply.files with same | ⟨algorithm, keyName, comment, _, same⟩
  · exact same ▸ directory
  · exact same ▸ Vfs.install_isDirectory consistent _ _ _ _ directory

theorem Reply.cwd_eq {prompt : Prompt} {failure : Option Failure} {next : Option Prompt}
    (reply : Reply lesson session vfs line prompt failure after changed next events) :
    after.cwd = session.cwd := by
  cases reply <;> rfl

theorem Reply.stands {prompt : Prompt} {failure : Option Failure} {next : Option Prompt}
    (reply : Reply lesson session vfs line prompt failure after changed next events)
    (stands : Stands session vfs) : Stands after changed := by
  refine ⟨reply.consistent stands.consistent, ?_⟩
  rw [reply.cwd_eq]
  exact reply.isDirectory stands.consistent stands.cwd

theorem Reply.home_eq {prompt : Prompt} {failure : Option Failure} {next : Option Prompt}
    (reply : Reply lesson session vfs line prompt failure after changed next events) :
    after.home = session.home := by
  cases reply <;> rfl

end turns

namespace Terminal
variable {C : Type} {lesson : Lesson}

/-- What every standard terminal of a lesson keeps: its lesson and commands, a home as
configured, no question but the built-in ones, and a place to stand. -/
structure Sound (lesson : Lesson) (terminal : Terminal C) : Prop where
  about : terminal.lesson = lesson
  loaded : ∃ vfs, initialFiles lesson = .ok vfs
  registry : terminal.registry.IsStandard
  builtin : ∀ dialogue, terminal.scene.dialogue = some dialogue → ∃ prompt, dialogue = .builtin prompt
  home : terminal.scene.session.home = lesson.home
  stands : Stands terminal.scene.session terminal.scene.vfs

private theorem builtin_map {prompt : Option Prompt} {dialogue : Dialogue C}
    (same : prompt.map .builtin = some dialogue) : ∃ prompt, dialogue = .builtin prompt := by
  obtain ⟨held, _, rfl⟩ := Option.map_eq_some_iff.mp same
  exact ⟨held, rfl⟩

theorem opening_stands {vfs : Vfs} (loaded : initialFiles lesson = .ok vfs) :
    Stands (.start lesson) vfs := by
  obtain ⟨snapshot, home⟩ := initialFiles_eq_ok_iff.mp loaded
  exact ⟨Vfs.consistent_of_ofSnapshot snapshot, Vfs.isDir_iff.mp home⟩

theorem sound_opening {vfs : Vfs} (loaded : initialFiles lesson = .ok vfs) {registry : Registry C}
    (known : registry.IsStandard) (bus : EventBus) :
    Sound lesson (⟨lesson, registry, .opening lesson vfs bus⟩ : Terminal C) :=
  ⟨rfl, ⟨vfs, loaded⟩, known, nofun, rfl, opening_stands loaded⟩

theorem Opens.sound {terminal : Terminal C} (opens : Opens lesson terminal) : Sound lesson terminal := by
  obtain ⟨fresh, accepted, same⟩ := opens
  obtain ⟨_, vfs, loaded, rfl⟩ := new_eq_ok_iff.mp accepted
  rcases same with rfl | rfl
  · exact sound_opening loaded (.inl rfl) .empty
  · exact sound_opening loaded (.inr rfl) .empty

theorem Leaves.sound {before after : Terminal C} {session : Session} {vfs : Vfs} {prompt : Option Prompt}
    (sound : Sound lesson before) (leaves : Leaves before session vfs prompt after)
    (home : session.home = before.scene.session.home) (stands : Stands session vfs) :
    Sound lesson after := by
  refine ⟨leaves.lesson.trans sound.about, sound.loaded, leaves.registry ▸ sound.registry, ?_, ?_, ?_⟩
  · intro dialogue active
    exact builtin_map (leaves.dialogue.symm.trans active)
  · rw [leaves.session]
    exact home.trans sound.home
  · rw [leaves.session, leaves.vfs]
    exact ⟨stands.consistent, stands.cwd⟩

variable [CustomDialogue C]

theorem Sound.turn {before : Terminal C} (sound : Sound lesson before) (input : String) :
    Turn before input (before.submit input).1 (before.submit input).2 :=
  submit_turn sound.registry sound.stands.consistent sound.builtin input

theorem Sound.submit {before : Terminal C} (sound : Sound lesson before) (input : String) :
    Sound lesson (before.submit input).1 := by
  cases sound.turn input with
  | blank idle empty same silent =>
    rw [same]
    exact sound
  | command idle filled effect leaves batch =>
    exact leaves.sound sound effect.home_eq (effect.stands sound.stands)
  | answer active reply leaves batch =>
    exact leaves.sound sound reply.home_eq (reply.stands sound.stands)

theorem Sound.take_reset {before : Terminal C} (sound : Sound lesson before) : ∃ vfs,
    initialFiles lesson = .ok vfs ∧
      before.take .reset = ⟨lesson, before.registry, .opening lesson vfs before.scene.bus.drained⟩ := by
  obtain ⟨vfs, loaded⟩ := sound.loaded
  rw [← sound.about] at loaded
  rw [Terminal.take, reset_eq_ok loaded, sound.about]
  exact ⟨vfs, sound.about ▸ loaded, rfl⟩

theorem Sound.take {before : Terminal C} (sound : Sound lesson before) (step : Step) :
    Sound lesson (before.take step) := by
  cases step with
  | submit line => exact sound.submit line
  | reset =>
    obtain ⟨vfs, loaded, same⟩ := sound.take_reset
    rw [same]
    exact sound_opening loaded sound.registry before.scene.bus.drained

theorem Sound.after {terminal : Terminal C} (sound : Sound lesson terminal) (steps : List Step) :
    Sound lesson (terminal.after steps) :=
  after_keeps sound (fun _ now next => now.take next) steps

/-- After every run of lines and resets the audit finds nothing and the working directory
is a directory. -/
theorem cwd_exists {terminal : Terminal C} (opens : Opens lesson terminal) (steps : List Step) :
    (terminal.after steps).scene.vfs.breach? = none ∧
      (terminal.after steps).scene.vfs.isDir (terminal.after steps).scene.session.cwd = true := by
  have stands := (opens.sound.after steps).stands
  exact ⟨Vfs.breach?_eq_none_iff.mpr stands.consistent, Vfs.isDir_iff.mpr stands.cwd⟩

theorem cwd_exists_on_a_walk : ∃ terminal : Terminal Empty, Opens Lesson.default terminal ∧
    let walked := terminal.after [.submit "cd ..", .submit "mv teacher staff", .submit "cd staff", .reset]
    walked.scene.vfs.breach? = none ∧ walked.scene.vfs.isDir walked.scene.session.cwd = true := by
  obtain ⟨terminal, accepted⟩ := exists_new_default (C := Empty)
  have opens : Opens Lesson.default terminal := ⟨terminal, accepted, .inl rfl⟩
  exact ⟨terminal, opens, cwd_exists opens _⟩

end Terminal
end LessonShell

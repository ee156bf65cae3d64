import LessonShell.Proofs.Terminal.Lines
import LessonShell.Proofs.Terminal.WorkingDirectory

/-! The home under `mv`. The command looks at how the home and the moved entry are spelled,
while the files are found by their segments. So the home is safe wherever `cd` can lead
only if its spelling continues that of every entry that holds it. -/
namespace LessonShell

namespace Command

theorem continues_iff {path top : String} :
    continues path top = true ↔ path = top ∨ ∃ rest, path = top ++ "/" ++ rest := by
  rw [continues, Bool.or_eq_true, decide_eq_true_iff, Text.startsWith_iff]

theorem prefix_of_continues {path top : String} (longer : continues path top = true) :
    Path.ofText top <+: Path.ofText path := by
  rcases continues_iff.mp longer with same | ⟨rest, same⟩
  · exact same ▸ List.prefix_refl _
  · have parts := Path.ofText_append_slash top rest
    rw [← same] at parts
    exact ⟨Path.ofText rest, parts.symm⟩

theorem continues_trans {path middle top : String} (longer : continues path middle = true)
    (long : continues middle top = true) : continues path top = true := by
  rw [continues_iff] at longer long ⊢
  rcases longer with same | ⟨rest, same⟩
  · rwa [same]
  · rcases long with other | ⟨between, other⟩
    · exact .inr ⟨rest, other ▸ same⟩
    · refine .inr ⟨between ++ "/" ++ rest, ?_⟩
      rw [same, other]
      simp only [String.append_assoc]

theorem continues_text {top path : Path} (within : top <+: path) (nonroot : top ≠ Path.root) :
    continues path.text top.text = true := by
  obtain ⟨rest, rfl⟩ := within
  rw [continues_iff]
  induction rest using List.reverseRecOn with
  | nil => exact .inl (by rw [List.append_nil])
  | append_singleton front last ih =>
    have filled : top ++ front ≠ Path.root := by simp [Path.root, show top ≠ [] from nonroot]
    have spelled : Path.text (top ++ (front ++ [last])) = Path.text (top ++ front) ++ "/" ++ last := by
      rw [← List.append_assoc]
      exact Path.text_child filled last
    rcases ih with same | ⟨between, same⟩
    · exact .inr ⟨last, by rw [spelled, same]⟩
    · refine .inr ⟨between ++ "/" ++ last, ?_⟩
      rw [spelled, same]
      simp only [String.append_assoc]

end Command

/-- The spellings that `cd ..` makes of the home, one after another. -/
inductive Ascent (home : String) : String → Prop
  | here : Ascent home home
  | up {cwd : String} (below : Ascent home cwd) (deep : 1 < (Path.ofText cwd).length) :
    Ascent home (PathText.parent cwd)

/-- The spellings that the working directory can have: cut from the home, or resolved. -/
def Standpoint (home cwd : String) : Prop :=
  Ascent home cwd ∨ ∃ path : Path, path.Normal ∧ path.Plain ∧ cwd = path.text

/-- Somewhere an entry holds the home, and its spelling does not begin that of the home. -/
def Exposed (home : String) : Prop :=
  ∃ cwd name, Standpoint home cwd ∧ Text.IsWord name ∧
    (Path.ofText cwd).child name <+: Path.ofText home ∧
    ¬ Command.continues home (PathText.join cwd name) = true

namespace Standpoint
variable {home cwd : String}

theorem spelled_up (spelled : ∃ path : Path, path.Normal ∧ path.Plain ∧ cwd = path.text)
    (deep : 1 < (Path.ofText cwd).length) :
    ∃ path : Path, path.Normal ∧ path.Plain ∧ PathText.parent cwd = path.text := by
  obtain ⟨path, normal, plain, rfl⟩ := spelled
  have nonroot := Path.ne_root_of_deep deep
  rw [Path.ofText_text normal] at nonroot
  exact ⟨path.parent, normal.parent, plain.parent, PathText.parent_text normal nonroot⟩

theorem up (standpoint : Standpoint home cwd) (deep : 1 < (Path.ofText cwd).length) :
    Standpoint home (PathText.parent cwd) := by
  rcases standpoint with ascent | spelled
  · exact .inl (.up ascent deep)
  · exact .inr (spelled_up spelled deep)

theorem resolved (home cwd input : String) : Standpoint home (PathText.resolve cwd input) :=
  .inr ⟨_, PathText.locate_normal cwd input, PathText.locate_plain cwd input, rfl⟩

end Standpoint

/-- Without its trailing slashes the home is spelled in normal form. -/
def Tidy (home : String) : Prop := Command.continues home (Path.ofText home).text = true

private def Cut (path : Path) (cwd : String) : Prop :=
  (∃ above, above <+: path ∧ cwd = Path.text above) ∨
    Path.ofText cwd = path ∧ ∃ tail, Path.ofText tail = Path.root ∧ cwd = path.text ++ tail

private theorem Cut.up {path : Path} {cwd : String} (normal : path.Normal) (cut : Cut path cwd)
    (deep : 1 < (Path.ofText cwd).length) : Cut path (PathText.parent cwd) := by
  rcases cut with ⟨above, within, rfl⟩ | ⟨same, tail, slashes, rfl⟩
  · have normalAbove := normal.of_within within
    have nonroot := Path.ne_root_of_deep deep
    rw [Path.ofText_text normalAbove] at nonroot
    exact .inl ⟨Path.parent above, (Path.parent_within above).trans within,
      PathText.parent_text normalAbove nonroot⟩
  · have nonroot : path ≠ Path.root := same ▸ Path.ne_root_of_deep deep
    by_cases slash : '/' ∈ tail.toList
    · obtain ⟨before, after, rfl, last⟩ := PathText.exists_last_slash slash
      rw [Path.ofText_append_slash] at slashes
      obtain ⟨front, back⟩ := List.append_eq_nil_iff.mp slashes
      have ends : after = "" := by
        by_contra filled
        rw [Path.ofText_unslashed last, if_neg filled] at back
        cases back
      subst ends
      have filled : path.text ++ before ≠ "" := by
        intro blank
        have one := congrArg Path.ofText (String.append_eq_empty_iff.mp blank).1
        rw [Path.ofText_text normal, Path.ofText_empty] at one
        exact nonroot one
      have spelled : path.text ++ (before ++ "/" ++ "") = path.text ++ before ++ "/" ++ "" := by
        simp only [String.append_assoc]
      rw [spelled] at same ⊢
      rw [PathText.parent_append _ last, if_neg filled]
      rw [Path.ofText_append_slash, Path.ofText_empty] at same
      exact .inr ⟨by simpa [Path.root] using same, before, front, rfl⟩
    · rw [Path.ofText_unslashed slash] at slashes
      split at slashes
      · next blank =>
        rw [blank, String.append_empty]
        exact .inl ⟨path.parent, Path.parent_within path, PathText.parent_text normal nonroot⟩
      · cases slashes

private theorem Ascent.cut {path : Path} {home cwd : String} (normal : path.Normal)
    (start : Cut path home) (ascent : Ascent home cwd) : Cut path cwd := by
  induction ascent with
  | here => exact start
  | up below deep ih => exact ih.up normal deep

/-- A tidy home is safe: where the shell can stand above it, no entry is spelled otherwise. -/
theorem Tidy.not_exposed {home : String} (tidy : Tidy home) : ¬ Exposed home := by
  intro exposed
  obtain ⟨cwd, name, standpoint, _, within, apart⟩ := exposed
  have normal := Path.normal_ofText home
  have start : Cut (Path.ofText home) home := by
    rcases Command.continues_iff.mp tidy with same | ⟨rest, same⟩
    · exact .inl ⟨_, List.prefix_refl _, same⟩
    · refine .inr ⟨rfl, "/" ++ rest, ?_, by rw [← String.append_assoc, ← same]⟩
      have parts := congrArg Path.ofText same
      rw [Path.ofText_append_slash, Path.ofText_text normal] at parts
      rw [Path.ofText_slash]
      exact List.self_eq_append_right.mp parts
  have spelled : ∃ above : Path, above.Normal ∧ cwd = above.text := by
    rcases standpoint with ascent | ⟨path, normalPath, _, same⟩
    · rcases ascent.cut normal start with ⟨above, inside, same⟩ | ⟨same, _⟩
      · exact ⟨above, normal.of_within inside, same⟩
      · rw [same] at within
        exact absurd within (Path.not_child_within _ name)
    · exact ⟨path, normalPath, same⟩
  obtain ⟨above, normalAbove, rfl⟩ := spelled
  rw [Path.ofText_text normalAbove] at within
  rw [PathText.join_text normalAbove] at apart
  exact apart (Command.continues_trans tidy (Command.continues_text within (Path.child_ne_root _ _)))

/-- Unless directions or blanks stand in the way, only a tidy home is safe. -/
theorem exposed_of_not_tidy {home : String} (nonroot : Path.ofText home ≠ Path.root)
    (plain : (Path.ofText home).parent.Plain) (word : Text.IsWord (Path.ofText home).name)
    (untidy : ¬ Tidy home) : Exposed home := by
  have normal := (Path.normal_ofText home).parent
  have whole : (Path.ofText (Path.ofText home).parent.text).child (Path.ofText home).name =
      Path.ofText home := by
    rw [Path.ofText_text normal, Path.child_parent_name nonroot]
  refine ⟨(Path.ofText home).parent.text, (Path.ofText home).name, .inr ⟨_, normal, plain, rfl⟩, word, ?_, ?_⟩
  · exact ⟨[], by rw [List.append_nil, whole]⟩
  · rw [PathText.join_text normal, Path.child_parent_name nonroot]
    exact untidy

section turns
variable {lesson : Lesson} {line name : String} {args : List String} {session after : Session}
  {vfs changed : Vfs} {events : List Event}

theorem Effect.standpoint {result : Except Failure CommandOutput} {prompt : Option Prompt}
    (effect : Effect lesson line session vfs name args result after changed prompt events)
    (standpoint : Standpoint session.home session.cwd) : Standpoint after.home after.cwd := by
  cases effect with
  | wentHome home => exact .inl .here
  | wentUp deep => exact standpoint.up deep
  | wentTo there => exact .resolved ..
  | _ => exact standpoint

/-- Only a move takes directories away, and it takes the home only where it is exposed. -/
theorem Effect.keeps_home {result : Except Failure CommandOutput} {prompt : Option Prompt}
    (effect : Effect lesson line session vfs name args result after changed prompt events)
    (all : ∀ arg ∈ args, Text.IsWord arg) (consistent : vfs.Consistent)
    (safe : ¬ Exposed session.home) (standpoint : Standpoint session.home session.cwd)
    (directory : vfs.IsDirectory (Path.ofText session.home)) :
    changed.IsDirectory (Path.ofText session.home) := by
  cases effect with
  | madeDirectory done => exact (Vfs.mkdir_growth consistent done).isDirectory directory
  | touched done => exact (Vfs.touch_growth consistent done).isDirectory directory
  | @moved source _ _ _ _ _ listing listed apart done =>
    refine rename_listed consistent listing listed done directory fun within => safe ?_
    exact ⟨session.cwd, source, standpoint, all source List.mem_cons_self, within, apart⟩
  | _ => exact directory

end turns

namespace Terminal
variable {C : Type} {lesson : Lesson}

/-- A sound terminal with the commands of a new one that stands where `cd` can lead and
whose home is a directory. -/
structure Housed (lesson : Lesson) (terminal : Terminal C) : Prop where
  sound : Sound lesson terminal
  registry : terminal.registry = .standard
  standpoint : Standpoint lesson.home terminal.scene.session.cwd
  directory : terminal.scene.vfs.IsDirectory (Path.ofText lesson.home)

theorem housed_opening {vfs : Vfs} (loaded : initialFiles lesson = .ok vfs) (bus : EventBus) :
    Housed lesson (⟨lesson, .standard, .opening lesson vfs bus⟩ : Terminal C) :=
  ⟨sound_opening loaded (.inl rfl) bus, rfl, .inl .here,
    Vfs.isDir_iff.mp (initialFiles_eq_ok_iff.mp loaded).2⟩

variable [CustomDialogue C]

theorem Sound.standpoint_submit {before : Terminal C} (sound : Sound lesson before)
    (standpoint : Standpoint lesson.home before.scene.session.cwd) (input : String) :
    Standpoint lesson.home (before.submit input).1.scene.session.cwd := by
  cases sound.turn input with
  | blank idle empty same silent =>
    rw [same]
    exact standpoint
  | command idle filled effect leaves batch =>
    rw [← sound.home] at standpoint
    have stood := effect.standpoint standpoint
    rw [effect.home_eq, sound.home] at stood
    rw [leaves.session]
    exact stood
  | answer active reply leaves batch =>
    rw [leaves.session]
    exact reply.cwd_eq ▸ standpoint

theorem Sound.standpoint_take {before : Terminal C} (sound : Sound lesson before)
    (standpoint : Standpoint lesson.home before.scene.session.cwd) (step : Step) :
    Standpoint lesson.home (before.take step).scene.session.cwd := by
  cases step with
  | submit line => exact sound.standpoint_submit standpoint line
  | reset =>
    obtain ⟨vfs, _, same⟩ := sound.take_reset
    rw [same]
    exact .inl .here

theorem Housed.submit {before : Terminal C} (housed : Housed lesson before)
    (safe : ¬ Exposed lesson.home) (input : String) : Housed lesson (before.submit input).1 := by
  obtain ⟨sound, registry, standpoint, directory⟩ := housed
  refine ⟨sound.submit input, (before.submit_registry input).trans registry,
    sound.standpoint_submit standpoint input, ?_⟩
  have consistent := sound.stands.consistent
  cases sound.turn input with
  | blank idle empty same silent =>
    rw [same]
    exact directory
  | command idle filled effect leaves batch =>
    have words : ∀ arg ∈ (Text.words (Text.trimmed input)).tail, Text.IsWord arg :=
      fun arg member => Text.isWord_of_mem_words (List.mem_of_mem_tail member)
    rw [← sound.home] at safe standpoint directory
    have kept := effect.keeps_home words consistent safe standpoint directory
    rw [sound.home] at kept
    rw [leaves.vfs]
    exact kept
  | answer active reply leaves batch =>
    rw [leaves.vfs]
    exact reply.isDirectory consistent directory

theorem Housed.take {before : Terminal C} (housed : Housed lesson before) (safe : ¬ Exposed lesson.home)
    (step : Step) : Housed lesson (before.take step) := by
  cases step with
  | submit line => exact housed.submit safe line
  | reset =>
    obtain ⟨vfs, loaded, same⟩ := housed.sound.take_reset
    rw [same, housed.registry]
    exact housed_opening loaded before.scene.bus.drained

end Terminal
end LessonShell

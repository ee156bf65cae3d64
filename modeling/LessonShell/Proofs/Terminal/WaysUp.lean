import LessonShell.Proofs.Spelling
import LessonShell.Proofs.Terminal.Attempts
import LessonShell.Proofs.Terminal.Exposure
import LessonShell.Proofs.Terminal.Identity
import LessonShell.Proofs.Vfs.Plain

/-! The two ways up. `cd ..` cuts the spelling of the working directory at its last slash, while `cd ./..`
resolves it piece by piece and so follows the directions among its segments. The first does not climb from
a spelling with a trailing slash, the second not past a direction; the home can be spelled in both ways. -/
namespace LessonShell

namespace PathText
open LessonShell.Path

/-- The working directory leads to where its segments lead, some of which can be directions. -/
theorem locate_here_eq (cwd : String) : locate cwd "." = (ofText cwd).foldl follow root := by
  have piece : ofText "." = ["."] := ofText_segment (by decide)
  rw [locate_of_relative cwd (by decide), piece, List.foldl_append]
  rfl

theorem locate_above (cwd : String) : locate cwd "./.." = (locate cwd ".").parent := by
  have pieces : ofText "./.." = [".", ".."] := by decide
  rw [locate_here_eq, locate_of_relative cwd (by decide), pieces, List.foldl_append]
  rfl

/-- Below the first segment the step up leads to the directory above exactly if there is no direction. -/
theorem locate_above_iff {cwd : String} (deep : 1 < (ofText cwd).length) :
    locate cwd "./.." = (ofText cwd).parent ↔ (ofText cwd).Plain := by
  refine ⟨fun same => ?_, fun plain => by rw [locate_above, locate_here plain]⟩
  rw [locate_above] at same
  obtain ⟨front, last, parts⟩ := (List.eq_nil_or_concat' (ofText cwd)).resolve_left (ne_root_of_deep deep)
  have whole : Path.parent (front ++ [last]) = front := parent_child front last
  have normal : Path.Normal front := whole ▸ parts ▸ (normal_ofText cwd).parent
  have plain : Path.Plain front := by
    have above := (locate_plain cwd ".").parent
    rwa [same, parts, whole] at above
  have below : front ≠ root := by
    rintro rfl
    simp [parts, root] at deep
  rw [locate_here_eq, parts, List.foldl_append, foldl_follow_of_plain normal plain, root, List.nil_append,
    whole] at same
  rw [parts]
  -- The last segment is no direction: either of them would have left `front` for good.
  refine Path.plain_child.mpr ⟨plain, ?_, ?_⟩
  · rintro rfl
    exact parent_ne below same
  · rintro rfl
    have shorter := congrArg List.length same
    have positive := List.length_pos_iff.mpr below
    change front.dropLast.dropLast.length = front.length at shorter
    simp only [List.length_dropLast] at shorter
    omega

end PathText

/-- A spelling from which both ways up climb. -/
def Straight (cwd : String) : Prop := cwd.toList.getLast? ≠ some '/' ∧ (Path.ofText cwd).Plain

instance (cwd : String) : Decidable (Straight cwd) := inferInstanceAs (Decidable (_ ∧ _))

theorem straight_of_spelled {cwd : String}
    (spelled : ∃ path : Path, path.Normal ∧ path.Plain ∧ cwd = path.text)
    (deep : 1 < (Path.ofText cwd).length) : Straight cwd := by
  obtain ⟨path, normal, plain, rfl⟩ := spelled
  have nonroot := Path.ne_root_of_deep deep
  have parts := Path.ofText_text normal
  refine ⟨(PathText.ofText_parent_iff nonroot).mp ?_, parts.symm ▸ plain⟩
  rw [PathText.parent_text normal (parts ▸ nonroot), Path.ofText_text normal.parent, parts]

namespace Command
variable {C : Type} {line : String} {lesson : Lesson}

/-- Where `cd` with an argument leads that is not just `..`. -/
def entered (session : Session) (vfs : Vfs) (arg : String) : String :=
  if vfs.isDir (PathText.resolve session.cwd arg) then PathText.resolve session.cwd arg else session.cwd

theorem run_cd {arg : String} (other : arg ≠ "..") (scene : Scene (Dialogue C)) :
    ∃ result, (cd.execute [arg]).run line lesson scene = (result,
      { scene with session := { scene.session with cwd := entered scene.session scene.vfs arg } }) := by
  by_cases directory : scene.vfs.isDir (PathText.resolve scene.session.cwd arg) = true
  · rw [run_cd_to other directory, entered, if_pos directory]
    exact ⟨_, rfl⟩
  · simp only [cd, Program.run_view_bind, if_neg other, if_neg directory, entered]
    exact ⟨_, rfl⟩

theorem ofText_entered_iff {session : Session} {vfs : Vfs} (stands : Stands session vfs)
    (deep : 1 < (Path.ofText session.cwd).length) :
    Path.ofText (entered session vfs "./..") = (Path.ofText session.cwd).parent ↔
      (Path.ofText session.cwd).Plain := by
  unfold entered
  split
  · rw [PathText.ofText_resolve, PathText.locate_above_iff deep]
  · next refused =>
    refine iff_of_false (Path.parent_ne (Path.ne_root_of_deep deep)).symm fun plain => refused ?_
    rw [Vfs.isDir_iff, PathText.ofText_resolve, (PathText.locate_above_iff deep).mpr plain]
    exact stands.consistent.isDirectory_of_within (Path.parent_within _) stands.cwd

end Command

namespace Terminal
variable {C : Type} [CustomDialogue C] {lesson : Lesson} {now : Terminal C}

/-- Both ways up lead to the directory above the one the shell stands in. -/
structure WaysUpAgree (now : Terminal C) : Prop where
  same : PathText.normalize (now.submit "cd ..").1.scene.session.cwd =
    PathText.normalize (now.submit "cd ./..").1.scene.session.cwd
  above : PathText.normalize (now.submit "cd ..").1.scene.session.cwd =
    (Path.ofText now.scene.session.cwd).parent.text

theorem waysUpAgree_iff_ofText : now.WaysUpAgree ↔
    Path.ofText (now.submit "cd ..").1.scene.session.cwd = (Path.ofText now.scene.session.cwd).parent ∧
    Path.ofText (now.submit "cd ./..").1.scene.session.cwd = (Path.ofText now.scene.session.cwd).parent := by
  have normal := (Path.normal_ofText now.scene.session.cwd).parent
  constructor
  · rintro ⟨same, above⟩
    rw [PathText.normalize_eq_iff] at same
    rw [PathText.normalize_eq] at above
    have up := Path.text_injective (Path.normal_ofText _) normal above
    exact ⟨up, same ▸ up⟩
  · rintro ⟨up, around⟩
    exact ⟨PathText.normalize_eq_iff.mpr (up.trans around.symm), by rw [PathText.normalize_eq, up]⟩

theorem cwd_after_cd {input next : String} {args : List String} (poised : Poised lesson now)
    (idle : now.scene.dialogue = none) (words : Text.words input = "cd" :: args)
    {result : Except Failure CommandOutput}
    (ran : (Command.cd.execute args).run (Text.trimmed input) lesson (now.callScene input "cd" args) = (result,
      { now.callScene input "cd" args with session := { now.scene.session with cwd := next } })) :
    (now.submit input).1.scene.session.cwd = next := by
  have member : (Command.cd : Command C) ∈ Registry.standardCommands := by simp [Registry.standardCommands]
  have invokes : Invokes lesson now input .cd args :=
    poised.invokes idle member (by simp [Command.cd]) words
  have waits : (now.callScene input "cd" args).dialogue = (none : Option Prompt).map .builtin := idle
  rw [(invokes.leaves ran waits (List.append_nil _).symm).1.session]

theorem cwd_after_up (poised : Poised lesson now) (idle : now.scene.dialogue = none)
    (deep : 1 < (Path.ofText now.scene.session.cwd).length) :
    (now.submit "cd ..").1.scene.session.cwd = PathText.parent now.scene.session.cwd :=
  cwd_after_cd poised idle (by decide : Text.words "cd .." = ["cd", ".."]) (Command.run_cd_up deep)

theorem cwd_after_around (poised : Poised lesson now) (idle : now.scene.dialogue = none) :
    (now.submit "cd ./..").1.scene.session.cwd =
      Command.entered now.scene.session now.scene.vfs "./.." := by
  obtain ⟨result, ran⟩ := Command.run_cd (by decide : "./.." ≠ "..") (now.callScene "cd ./.." "cd" ["./.."])
  exact cwd_after_cd poised idle (by decide : Text.words "cd ./.." = ["cd", "./.."]) ran

theorem Poised.waysUpAgree_iff (poised : Poised lesson now) (idle : now.scene.dialogue = none)
    (deep : 1 < (Path.ofText now.scene.session.cwd).length) :
    now.WaysUpAgree ↔ Straight now.scene.session.cwd := by
  rw [waysUpAgree_iff_ofText, cwd_after_up poised idle deep, cwd_after_around poised idle,
    PathText.ofText_parent_iff (Path.ne_root_of_deep deep), Command.ofText_entered_iff poised.sound.stands deep]
  rfl

/-- In every state that waits for a line below the first segment, both ways up lead to the directory above
exactly if the working directory is spelled without a trailing slash and without a direction. -/
theorem ways_up_agree_iff {terminal : Terminal C} (opens : Opens lesson terminal) (steps : List Step)
    (idle : (terminal.after steps).scene.dialogue = none)
    (deep : 1 < (Path.ofText (terminal.after steps).scene.session.cwd).length) :
    (terminal.after steps).WaysUpAgree ↔ Straight (terminal.after steps).scene.session.cwd :=
  (opens.poised_after steps).waysUpAgree_iff idle deep

theorem ways_up_agree_below_home :
    ∃ terminal : Terminal Empty, Terminal.new Lesson.default = .ok terminal ∧
      let now := terminal.after [.submit "mkdir a", .submit "cd a/."]
      now.scene.session.cwd = "/home/alumno/a" ∧ now.WaysUpAgree := by
  obtain ⟨terminal, accepted⟩ := exists_new_default (C := Empty)
  let steps : List Step := [.submit "mkdir a", .submit "cd a/."]
  have reached : ((Terminal.new Lesson.default : Except Failure (Terminal Empty)).toOption.map fun terminal =>
      let now := terminal.after steps
      (now.scene.dialogue, now.scene.session.cwd)) = some (none, "/home/alumno/a") := by decide +kernel
  rw [accepted] at reached
  obtain ⟨idle, cwd⟩ := Prod.mk.inj (Option.some.inj reached)
  have deep : 1 < (Path.ofText (terminal.after steps).scene.session.cwd).length := cwd ▸ by decide
  refine ⟨terminal, accepted, cwd, (ways_up_agree_iff ⟨_, accepted, .inl rfl⟩ steps idle deep).mpr ?_⟩
  rw [cwd]
  decide

/-- With a slash after the home the cut only takes that slash. -/
theorem ways_up_differ_at_slash :
    let lesson := { Lesson.default with home := "/home/alumno/" }
    ∃ terminal : Terminal Empty, Terminal.new lesson = .ok terminal ∧ terminal.scene.dialogue = none ∧
      Path.ofText terminal.scene.session.cwd = ["home", "alumno"] ∧
      PathText.normalize (terminal.submit "cd ..").1.scene.session.cwd = "/home/alumno" ∧
      PathText.normalize (terminal.submit "cd ./..").1.scene.session.cwd = "/home" := by
  intro lesson
  exact exists_new_of_any (by decide +kernel)

theorem Opens.standpoint_after {terminal : Terminal C} (opens : Opens lesson terminal) (steps : List Step) :
    Standpoint lesson.home (terminal.after steps).scene.session.cwd := by
  induction steps using List.reverseRecOn with
  | nil =>
    rw [opens.session_anew (.inl rfl)]
    exact .inl .here
  | append_singleton early last ih =>
    rw [after_append]
    exact (opens.sound.after early).standpoint_take ih last

/-- The ways up agree throughout exactly if they do wherever `cd ..` leads from the home. -/
theorem ways_up_always_agree_iff {terminal : Terminal C} (accepted : Terminal.new lesson = .ok terminal) :
    (∀ steps, (terminal.after steps).scene.dialogue = none →
      1 < (Path.ofText (terminal.after steps).scene.session.cwd).length →
      (terminal.after steps).WaysUpAgree) ↔
    ∀ cwd, Ascent lesson.home cwd → 1 < (Path.ofText cwd).length → Straight cwd := by
  have opens : Opens lesson terminal := ⟨_, accepted, .inl rfl⟩
  constructor
  · intro agree cwd ascent deep
    obtain ⟨_, vfs, loaded, rfl⟩ := new_eq_ok_iff.mp accepted
    have start : Reaches (⟨lesson, .standard, .opening lesson vfs .empty⟩ : Terminal C)
        lesson.home lesson.home vfs := ⟨[], rfl, rfl, rfl, rfl, rfl⟩
    obtain ⟨steps, waits⟩ := start.ascend ascent
    rw [← waits.cwd] at deep ⊢
    exact ((opens.poised_after steps).waysUpAgree_iff waits.idle deep).mp (agree steps waits.idle deep)
  · intro straight steps idle deep
    refine ((opens.poised_after steps).waysUpAgree_iff idle deep).mpr ?_
    rcases opens.standpoint_after steps with ascent | spelled
    · exact straight _ ascent deep
    · exact straight_of_spelled spelled deep

/-- A home in normal form and without directions is safe. -/
theorem ways_up_agree_of_plain_home {terminal : Terminal C} (accepted : Terminal.new lesson = .ok terminal)
    (normal : PathText.isNormal lesson.home.toList = true) (plain : (Path.ofText lesson.home).Plain)
    (steps : List Step) (idle : (terminal.after steps).scene.dialogue = none)
    (deep : 1 < (Path.ofText (terminal.after steps).scene.session.cwd).length) :
    (terminal.after steps).WaysUpAgree := by
  refine (ways_up_always_agree_iff accepted).mpr (fun cwd ascent deep => ?_) steps idle deep
  refine straight_of_spelled ?_ deep
  clear deep
  induction ascent with
  | here => exact ⟨_, Path.normal_ofText _, plain, (PathText.text_ofText normal).symm⟩
  | up below above ih => exact Standpoint.spelled_up ih above

end Terminal
end LessonShell

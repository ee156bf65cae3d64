import LessonShell.Proofs.Spelling
import LessonShell.Proofs.Terminal.Home
import LessonShell.Proofs.Vfs.Writing

/-! Moves by `mv`. The command looks at spellings before it moves anything. From a working directory
in normal form these checks are just those of the move itself, so the files never refuse what the
command has let through. -/
namespace LessonShell

namespace Vfs
variable {vfs : Vfs} {source base target : Path} {name : String}

theorem movable_into_iff (nonroot : source ≠ Path.root) (present : source ∈ vfs.nodes)
    (directory : vfs.IsDirectory target) : Movable vfs source (target.child name) ↔
      target.child name ≠ source ∧ ¬ source <+: target ∧ target.child name ∉ vfs.nodes := by
  constructor
  · intro movable
    have outside := movable.outside
    rw [Path.prefix_child_iff, not_or] at outside
    exact ⟨Ne.symm outside.2, outside.1, movable.free⟩
  · rintro ⟨differs, outside, free⟩
    refine ⟨nonroot, present, free, ?_, (Path.parent_child target name).symm ▸ directory⟩
    rw [Path.prefix_child_iff, not_or]
    exact ⟨outside, Ne.symm differs⟩

theorem movable_beside_iff (present : base.child name ∈ vfs.nodes) (directory : vfs.IsDirectory base)
    (nonroot : target ≠ Path.root) (beside : target.parent = base) :
    Movable vfs (base.child name) target ↔ target ∉ vfs.nodes := by
  refine ⟨Movable.free, fun free => ⟨Path.child_ne_root base name, present, free, ?_, beside.symm ▸ directory⟩⟩
  rw [← Path.child_parent_name nonroot, beside, Path.prefix_child_iff, not_or]
  refine ⟨Path.not_child_within base name, fun same => free ?_⟩
  rw [← Path.child_parent_name nonroot, beside, ← same]
  exact present

end Vfs

/-- The errors that `mv` words itself once it has its two operands. -/
def Diagnostic.ofMove : Diagnostic → Bool
  | .moveMissing _ | .moveHome _ | .moveSame _ _ | .moveIntoItself _ _ | .moveNowhere _ _
  | .moveExisting _ _ => true
  | _ => false

theorem Diagnostic.startsWith_mv {cause : Diagnostic} (move : cause.ofMove = true) :
    Text.startsWith cause.message "mv: " = true := by
  cases cause with
  | moveMissing | moveHome | moveSame | moveIntoItself | moveNowhere | moveExisting =>
    repeat' refine Text.startsWith_append ?_ _
    decide
  | _ => cases move

namespace Command
variable {C : Type} {line : String} {lesson : Lesson} {scene : Scene (Dialogue C)} {source dest : String}

theorem continues_text_iff {top path : Path} (above : top.Normal) (normal : path.Normal)
    (nonroot : top ≠ Path.root) : continues path.text top.text = true ↔ top <+: path := by
  refine ⟨fun longer => ?_, fun within => continues_text within nonroot⟩
  have prefixed := prefix_of_continues longer
  rwa [Path.ofText_text above, Path.ofText_text normal] at prefixed

/-- What `mv` lets through: an entry of the working directory that is not spelled as the start of the
home goes to a free place outside of itself, either in an existing directory or beside where it was. -/
structure Permits (session : Session) (vfs : Vfs) (source dest : String) : Prop where
  listed : ∃ names, vfs.children session.cwd = .ok names ∧ source ∈ names
  apart : ¬ continues session.home (PathText.join session.cwd source) = true
  near : vfs.isDir (PathText.resolve session.cwd dest) = true ∨
    PathText.parent (PathText.resolve session.cwd dest) = session.cwd
  movable : Vfs.Movable vfs (Path.ofText (PathText.join session.cwd source))
    (Path.ofText (destination vfs session.cwd source dest))

/-- How `mv` can end: with an error in its own words and no change, or with the move done. -/
inductive Moves (source dest : String) (scene : Scene (Dialogue C)) :
    Except Failure CommandOutput × Scene (Dialogue C) → Prop
  | refused (cause : Diagnostic) (own : Text.startsWith cause.message "mv: " = true)
    (barred : ¬ Permits scene.session scene.vfs source dest) :
    Moves source dest scene (.error (.command cause), scene)
  | done {after : Vfs} (permitted : Permits scene.session scene.vfs source dest)
    (effect : Vfs.Renamed scene.vfs (Path.ofText (PathText.join scene.session.cwd source))
      (Path.ofText (destination scene.vfs scene.session.cwd source dest)) after) :
    Moves source dest scene (.ok .silent, { scene with vfs := after })

theorem Permits.rename (permits : Permits scene.session scene.vfs source dest)
    (consistent : scene.vfs.Consistent) : ∃ after,
      scene.vfs.rename (PathText.join scene.session.cwd source)
        (destination scene.vfs scene.session.cwd source dest) = (.ok (), after) ∧
      Vfs.Renamed scene.vfs (Path.ofText (PathText.join scene.session.cwd source))
        (Path.ofText (destination scene.vfs scene.session.cwd source dest)) after := by
  have movable := permits.movable
  obtain ⟨after, done⟩ := (Vfs.rename_eq_ok_iff consistent).mpr ⟨movable.nonroot, movable.present, .inr movable⟩
  rcases Vfs.renamed_of_rename consistent done with ⟨same, _⟩ | ⟨_, effect⟩
  · exact absurd (same ▸ movable.present) movable.free
  · exact ⟨after, done, effect⟩

/-- What moves stands below the working directory, which therefore stays. -/
theorem Permits.stands (permits : Permits scene.session scene.vfs source dest)
    (consistent : scene.vfs.Consistent) (directory : scene.vfs.isDir scene.session.cwd = true) {after : Vfs}
    (effect : Vfs.Renamed scene.vfs (Path.ofText (PathText.join scene.session.cwd source))
      (Path.ofText (destination scene.vfs scene.session.cwd source dest)) after) :
    after.isDir scene.session.cwd = true := by
  obtain ⟨names, listing, listed⟩ := permits.listed
  have segment := consistent.segments (Vfs.children_eq_ok_iff.mp listing) source listed
  refine Vfs.isDir_iff.mpr (effect.isDirectory consistent permits.movable (Vfs.isDir_iff.mp directory) ?_)
  rw [PathText.ofText_join_segment _ segment]
  exact Path.not_child_within _ _

section guards
variable {session : Session} {vfs : Vfs} {names : List String}

/-- Into a directory the checks of the spellings are those of the move. -/
theorem permits_into_iff (consistent : vfs.Consistent)
    (normal : PathText.isNormal session.cwd.toList = true)
    (listing : vfs.children session.cwd = .ok names) (listed : source ∈ names)
    (apart : ¬ continues session.home (PathText.join session.cwd source) = true)
    (directory : vfs.isDir (PathText.resolve session.cwd dest) = true) :
    Permits session vfs source dest ↔
      PathText.join (PathText.resolve session.cwd dest) source ≠ PathText.join session.cwd source ∧
      ¬ continues (PathText.resolve session.cwd dest) (PathText.join session.cwd source) = true ∧
      ¬ vfs.has (PathText.join (PathText.resolve session.cwd dest) source) = true := by
  have found := Vfs.children_eq_ok_iff.mp listing
  have segment := consistent.segments found source listed
  have present := consistent.present found source listed
  have below := consistent.normal present
  have there := Vfs.isDir_iff.mp directory
  rw [PathText.ofText_resolve] at there
  have landed : (Path.child (PathText.locate session.cwd dest) source).Normal :=
    Path.normal_child.mpr ⟨PathText.locate_normal session.cwd dest, segment⟩
  -- The texts that the checks compare are the texts of the two paths.
  have origin : PathText.join session.cwd source = ((Path.ofText session.cwd).child source).text := by
    rw [← PathText.join_text (Path.normal_ofText session.cwd), PathText.text_ofText normal]
  have arrival : PathText.join (PathText.resolve session.cwd dest) source =
      (Path.child (PathText.locate session.cwd dest) source).text :=
    PathText.join_text (PathText.locate_normal session.cwd dest) source
  have movable : Vfs.Movable vfs ((Path.ofText session.cwd).child source)
      (Path.child (PathText.locate session.cwd dest) source) ↔ _ :=
    Vfs.movable_into_iff (Path.child_ne_root _ source) present there
  have within := continues_text_iff below (PathText.locate_normal session.cwd dest)
    (Path.child_ne_root (Path.ofText session.cwd) source)
  rw [arrival, origin, PathText.resolve, within, Vfs.has_iff, Path.ofText_text landed]
  constructor
  · intro permits
    have moves := permits.movable
    rw [destination, if_pos directory, arrival, origin, Path.ofText_text below, Path.ofText_text landed,
      movable] at moves
    exact ⟨fun same => moves.1 (Path.text_injective landed below same), moves.2⟩
  · rintro ⟨differs, outside, free⟩
    refine ⟨⟨names, listing, listed⟩, apart, .inl directory, ?_⟩
    rw [destination, if_pos directory, arrival, origin, Path.ofText_text below, Path.ofText_text landed,
      movable]
    exact ⟨fun same => differs (congrArg Path.text same), outside, free⟩

/-- Beside the entry only what stands in the way is left to check. -/
theorem permits_beside_iff (consistent : vfs.Consistent)
    (listing : vfs.children session.cwd = .ok names) (listed : source ∈ names)
    (apart : ¬ continues session.home (PathText.join session.cwd source) = true)
    (elsewhere : ¬ vfs.isDir (PathText.resolve session.cwd dest) = true) :
    Permits session vfs source dest ↔
      PathText.parent (PathText.resolve session.cwd dest) = session.cwd ∧
      ¬ vfs.has (PathText.resolve session.cwd dest) = true := by
  have found := Vfs.children_eq_ok_iff.mp listing
  have segment := consistent.segments found source listed
  have present := consistent.present found source listed
  have normal := PathText.locate_normal session.cwd dest
  have nonroot : PathText.locate session.cwd dest ≠ Path.root := by
    intro top
    rw [Vfs.isDir_iff, PathText.ofText_resolve, top] at elsewhere
    exact elsewhere consistent.root
  have movable (beside : PathText.parent (PathText.resolve session.cwd dest) = session.cwd) :
      Vfs.Movable vfs (Path.ofText (PathText.join session.cwd source))
        (Path.ofText (destination vfs session.cwd source dest)) ↔
      ¬ vfs.has (PathText.resolve session.cwd dest) = true := by
    have above := congrArg Path.ofText beside
    rw [PathText.resolve, PathText.parent_text normal nonroot, Path.ofText_text normal.parent] at above
    rw [destination, if_neg elsewhere, PathText.ofText_join_segment _ segment, PathText.ofText_resolve,
      Vfs.has_iff, PathText.ofText_resolve]
    exact Vfs.movable_beside_iff present ⟨names, found⟩ nonroot above
  constructor
  · intro permits
    have beside := permits.near.resolve_left elsewhere
    exact ⟨beside, (movable beside).mp permits.movable⟩
  · rintro ⟨beside, free⟩
    exact ⟨⟨names, listing, listed⟩, apart, .inr beside, (movable beside).mpr free⟩

end guards

section runs
open Program
variable {names : List String}

private theorem moved_of_permits (consistent : scene.vfs.Consistent)
    (permits : Permits scene.session scene.vfs source dest) {place : String}
    (arrival : destination scene.vfs scene.session.cwd source dest = place) :
    Moves source dest scene ((putVfs (scene.vfs.rename (PathText.join scene.session.cwd source) place) >>=
      fun _ => pure .silent : Program (Dialogue C) CommandOutput).run line lesson scene) := by
  obtain ⟨after, done, effect⟩ := permits.rename consistent
  rw [← arrival, done]
  exact .done permits effect

theorem moveInto_moves {active : Bool} (consistent : scene.vfs.Consistent)
    (normal : PathText.isNormal scene.session.cwd.toList = true)
    (listing : scene.vfs.children scene.session.cwd = .ok names) (listed : source ∈ names)
    (apart : ¬ continues scene.session.home (PathText.join scene.session.cwd source) = true)
    (directory : scene.vfs.isDir (PathText.resolve scene.session.cwd dest) = true) :
    Moves source dest scene ((moveInto ⟨line, scene.session, scene.vfs, lesson, active⟩ source
      (PathText.resolve scene.session.cwd dest) dest).run line lesson scene) := by
  have guards := permits_into_iff consistent normal listing listed apart directory
  simp only [moveInto]
  split
  · next same =>
    rw [run_refuse_bind]
    exact .refused _ (Diagnostic.startsWith_mv rfl) fun permits => (guards.mp permits).1 same
  · next differs =>
    split
    · next inside =>
      rw [run_refuse_bind]
      exact .refused _ (Diagnostic.startsWith_mv rfl) fun permits => (guards.mp permits).2.1 inside
    · next outside =>
      split
      · next taken =>
        rw [run_refuse_bind]
        exact .refused _ (Diagnostic.startsWith_mv rfl) fun permits => (guards.mp permits).2.2 taken
      · next free =>
        exact moved_of_permits consistent (guards.mpr ⟨differs, outside, free⟩) (if_pos directory)

theorem moveTo_moves {active : Bool} (consistent : scene.vfs.Consistent)
    (listing : scene.vfs.children scene.session.cwd = .ok names) (listed : source ∈ names)
    (apart : ¬ continues scene.session.home (PathText.join scene.session.cwd source) = true)
    (elsewhere : ¬ scene.vfs.isDir (PathText.resolve scene.session.cwd dest) = true) :
    Moves source dest scene ((moveTo ⟨line, scene.session, scene.vfs, lesson, active⟩ source
      (PathText.resolve scene.session.cwd dest) dest).run line lesson scene) := by
  have guards := permits_beside_iff consistent listing listed apart elsewhere
  simp only [moveTo]
  split
  · next far =>
    rw [run_refuse_bind]
    exact .refused _ (Diagnostic.startsWith_mv rfl) fun permits => far (guards.mp permits).1
  · next beside =>
    split
    · next taken =>
      rw [run_refuse_bind]
      exact .refused _ (Diagnostic.startsWith_mv rfl) fun permits => (guards.mp permits).2 taken
    · next free =>
      exact moved_of_permits consistent (guards.mpr ⟨not_not.mp beside, free⟩) (if_neg elsewhere)

end runs

/-- From a working directory in normal form `mv` either fails in its own words and changes nothing, or
moves the entry and all below it and nothing else. No error comes from the files, and the working
directory is there afterwards. -/
theorem mv_outcome (audited : scene.vfs.breach? = none)
    (normal : PathText.isNormal scene.session.cwd.toList = true)
    (directory : scene.vfs.isDir scene.session.cwd = true) (rest : List String) :
    let run := (mv.execute (source :: dest :: rest)).run line lesson scene
    Moves source dest scene run ∧ run.2.vfs.isDir scene.session.cwd = true := by
  have consistent := Vfs.breach?_eq_none_iff.mp audited
  obtain ⟨names, found⟩ := Vfs.isDir_iff.mp directory
  have listing := Vfs.children_eq_ok_iff.mpr found
  have moves : Moves source dest scene ((mv.execute (source :: dest :: rest)).run line lesson scene) := by
    unfold mv
    dsimp only
    rw [Program.run_view_bind, Program.run_bind]
    simp only [listing, Program.ofVfs, Program.run]
    split
    · next unlisted =>
      refine .refused _ (Diagnostic.startsWith_mv rfl) fun permits => ?_
      obtain ⟨others, again, listed⟩ := permits.listed
      rw [listing] at again
      cases again
      exact unlisted listed
    · next listed =>
      split
      · next home => exact .refused _ (Diagnostic.startsWith_mv rfl) fun permits => permits.apart home
      · next apart =>
        split
        · next there => exact moveInto_moves consistent normal listing (not_not.mp listed) apart there
        · next elsewhere => exact moveTo_moves consistent listing (not_not.mp listed) apart elsewhere
  refine ⟨moves, ?_⟩
  generalize (mv.execute (source :: dest :: rest)).run line lesson scene = run at moves
  cases moves with
  | refused => exact directory
  | done permitted effect => exact permitted.stands consistent directory effect

theorem mv_into_a_sibling :
    let vfs := FileRequest.performAll Vfs.empty
      [.mkdir "/a", .mkdir "/a/x", .write "/a/x/f" "text", .mkdir "/b"]
    let scene : Scene (Dialogue Empty) :=
      ⟨{ Session.start Lesson.default with cwd := "/a" }, vfs, [], .empty, none⟩
    ∃ after, (mv.execute ["x", "..//b/"]).run "mv x ..//b/" Lesson.default scene = (.ok .silent, after) ∧
      after.vfs.read "/b/x/f" = .ok "text" ∧ after.vfs.isDir "/a" = true := by
  intro vfs scene
  have audited : vfs.breach? = none := by decide +kernel
  have normal : PathText.isNormal scene.session.cwd.toList = true := by decide
  have directory : vfs.isDir scene.session.cwd = true := by decide +kernel
  have held : vfs.nodes[Path.ofText (PathText.join "/a" "x") ++ ["f"]]? = some (.file "text") := by decide +kernel
  have place : Path.ofText (destination vfs "/a" "x" "..//b/") ++ ["f"] = Path.ofText "/b/x/f" := by decide +kernel
  have succeeded : ((mv.execute ["x", "..//b/"]).run "mv x ..//b/" Lesson.default scene).1.toOption.isSome =
      true := by decide +kernel
  have outcome := @mv_outcome Empty "mv x ..//b/" Lesson.default scene "x" "..//b/" audited normal directory []
  dsimp only at outcome
  generalize (mv.execute ["x", "..//b/"]).run "mv x ..//b/" Lesson.default scene = run at outcome succeeded ⊢
  obtain ⟨moves, stays⟩ := outcome
  cases moves with
  | refused => cases succeeded
  | done permitted effect =>
    exact ⟨_, rfl, Vfs.read_eq_ok_iff.mpr (place ▸ (effect.moved ["f"]).trans held), stays⟩

end Command
end LessonShell

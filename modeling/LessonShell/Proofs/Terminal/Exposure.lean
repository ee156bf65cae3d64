import LessonShell.Proofs.Terminal.Home
import Mathlib.Algebra.Order.BigOperators.Group.List
import Mathlib.Algebra.Order.Group.Nat

/-! A run that moves an exposed home away: a new directory is made at the root, the shell
goes where the home is exposed, and the entry that holds it is moved into the directory. -/
namespace LessonShell

/-- Every path above the home is spelled by cutting the home, but for the root. -/
theorem exists_ascent {home cwd : String} {path : Path} (ascent : Ascent home cwd)
    (within : path <+: Path.ofText cwd) (nonroot : path ≠ Path.root) :
    ∃ cwd, Ascent home cwd ∧ Path.ofText cwd = path := by
  by_cases reached : path = Path.ofText cwd
  · exact ⟨cwd, ascent, reached.symm⟩
  · have above := Path.prefix_parent_of_ne within reached
    have deep : 1 < (Path.ofText cwd).length := by
      have longer := above.length_le
      have positive := List.length_pos_iff.mpr nonroot
      simp only [Path.parent, List.length_dropLast] at longer
      omega
    have still : path <+: Path.ofText (PathText.parent cwd) := by
      rcases PathText.ofText_parent cwd with same | cut
      · rwa [same]
      · rwa [cut]
    -- Each `cd ..` shortens the text, even where it only drops a trailing slash.
    have shorter := PathText.parent_length_lt deep
    exact exists_ascent (.up ascent deep) still nonroot
termination_by cwd.toList.length

/-- A name that nothing at the root has and that no path reads as a direction. -/
structure FreeName (vfs : Vfs) (name : String) : Prop where
  word : Text.IsWord name
  unslashed : '/' ∉ name.toList
  undotted : '.' ∉ name.toList
  free : Path.child Path.root name ∉ vfs.nodes

theorem exists_freeName {vfs : Vfs} (consistent : vfs.Consistent) : ∃ name, FreeName vfs name := by
  obtain ⟨names, found⟩ := consistent.root
  let longer := (names.map fun name => name.toList.length).sum + 1
  have letters : ∀ c ∈ (String.ofList (List.replicate longer 'x')).toList, c = 'x' := by simp
  refine ⟨String.ofList (List.replicate longer 'x'), ⟨?_, fun c member => ?_⟩, ?_, ?_, ?_⟩
  · intro blank
    simpa [longer] using congrArg String.toList blank
  · rw [letters c member]
    decide
  · exact fun slash => absurd (letters _ slash) (by decide)
  · exact fun dot => absurd (letters _ dot) (by decide)
  · intro member
    have listed := (consistent.child_mem_iff found).mp member
    have bounded : _ ≤ (names.map fun name => name.toList.length).sum :=
      List.le_sum_of_mem (List.mem_map_of_mem listed)
    simp [longer] at bounded

namespace FreeName
variable {vfs : Vfs} {name : String}

theorem ofText_eq (free : FreeName vfs name) : Path.ofText ("/" ++ name) = Path.child Path.root name := by
  rw [Path.ofText_slash, Path.ofText_segment ⟨free.word.1, free.unslashed⟩]
  rfl

theorem plain (free : FreeName vfs name) : (Path.child Path.root name).Plain := by
  have dots {text : String} (dotted : '.' ∈ text.toList) : text ≠ name :=
    fun same => free.undotted (same ▸ dotted)
  have dot : "." ≠ name := dots (by decide)
  have up : ".." ≠ name := dots (by decide)
  exact ⟨by simpa [Path.child, Path.root] using dot, by simpa [Path.child, Path.root] using up⟩

theorem normal (free : FreeName vfs name) : Path.Normal (Path.child Path.root name) :=
  free.ofText_eq ▸ Path.normal_ofText ("/" ++ name)

theorem resolve_eq (free : FreeName vfs name) (cwd : String) :
    PathText.resolve cwd ("/" ++ name) = "/" ++ name := by
  have absolute : Text.startsWith ("/" ++ name) "/" = true := Text.startsWith_iff.mpr ⟨name, rfl⟩
  rw [PathText.resolve, PathText.locate_absolute cwd absolute (free.ofText_eq ▸ free.plain), free.ofText_eq]
  exact Path.text_child_root name

theorem isWord_slash (free : FreeName vfs name) : Text.IsWord ("/" ++ name) := by
  refine ⟨fun blank => ?_, fun c member => ?_⟩
  · simpa using congrArg String.toList blank
  · rw [String.toList_append] at member
    rcases List.mem_append.mp member with slash | inside
    · rw [List.mem_singleton.mp slash]
      decide
    · exact free.word.2 c inside

theorem not_mem (free : FreeName vfs name) (consistent : vfs.Consistent) {path : Path}
    (within : Path.child Path.root name <+: path) : path ∉ vfs.nodes :=
  fun member => free.free (consistent.mem_of_within within member)

theorem apart (free : FreeName vfs name) (consistent : vfs.Consistent) {source : Path}
    (old : source ∈ vfs.nodes) (nonroot : source ≠ Path.root) (entry : String) :
    ¬ source <+: (Path.child Path.root name).child entry := by
  have unlike {path : Path} (within : Path.child Path.root name <+: path) : source ≠ path :=
    fun same => free.not_mem consistent within (same ▸ old)
  rw [Path.prefix_child_iff, Path.prefix_child_iff, not_or, not_or]
  refine ⟨⟨fun top => nonroot (List.prefix_nil.mp top), unlike (List.prefix_refl _)⟩, ?_⟩
  exact unlike (List.prefix_append _ _)

theorem entry_unheld (free : FreeName vfs name) (consistent : vfs.Consistent) {grown : Vfs}
    (room : Vfs.Added vfs (Path.child Path.root name) .emptyDir grown) (entry : String) :
    (Path.child Path.root name).child entry ∉ grown.nodes := by
  rw [room.mem_iff, not_or]
  constructor
  · intro same
    simpa [Path.child] using congrArg List.length same
  · exact free.not_mem consistent (List.prefix_append _ _)

end FreeName

namespace Terminal
variable {C : Type} [CustomDialogue C] {terminal : Terminal C} {home cwd : String} {vfs : Vfs}

namespace Reaches

theorem ascend (start : terminal.Reaches home home vfs) (ascent : Ascent home cwd) :
    terminal.Reaches home cwd vfs := by
  induction ascent with
  | here => exact start
  | up below deep ih => exact ih.goUp deep

theorem goRoot (reaches : terminal.Reaches home cwd vfs) (consistent : vfs.Consistent) :
    terminal.Reaches home "/" vfs := by
  have resolved : PathText.resolve cwd "/" = "/" := by
    have plain : (Path.ofText "/").Plain := by simp [Path.Plain, Path.root]
    rw [PathText.resolve, PathText.locate_absolute cwd (by decide) plain, Path.ofText_root]
    rfl
  have directory : vfs.isDir "/" = true := Vfs.isDir_iff.mpr (Path.ofText_root ▸ consistent.root)
  rw [← resolved] at directory
  exact resolved ▸ reaches.enter (by decide) (by decide) directory

theorem stand (start : terminal.Reaches home home vfs) (consistent : vfs.Consistent)
    (directory : vfs.IsDirectory (Path.ofText home)) (standpoint : Standpoint home cwd)
    (within : Path.ofText cwd <+: Path.ofText home) : terminal.Reaches home cwd vfs := by
  rcases standpoint with ascent | ⟨path, normal, plain, rfl⟩
  · exact start.ascend ascent
  · rw [Path.ofText_text normal] at within
    by_cases top : path = Path.root
    · subst top
      exact start.goRoot consistent
    · obtain ⟨below, ascent, same⟩ := exists_ascent .here within top
      rw [← same] at plain within
      have resolved : PathText.resolve below "." = path.text := by
        rw [PathText.resolve, PathText.locate_here plain, same]
      have there : vfs.isDir (PathText.resolve below ".") = true := by
        rw [resolved, Vfs.isDir_iff, Path.ofText_text normal, ← same]
        exact consistent.isDirectory_of_within within directory
      exact resolved ▸ (start.ascend ascent).enter (by decide) (by decide) there

end Reaches

section move
variable {name : String}

theorem Reaches.makeRoom (reaches : terminal.Reaches home cwd vfs) (consistent : vfs.Consistent)
    (free : FreeName vfs name) : ∃ grown, terminal.Reaches home "/" grown ∧
      Vfs.Added vfs (Path.child Path.root name) .emptyDir grown := by
  have joined : PathText.join "/" name = "/" ++ name := rfl
  have absent : Path.ofText ("/" ++ name) ∉ vfs.nodes := free.ofText_eq ▸ free.free
  have above : vfs.IsDirectory (Path.ofText ("/" ++ name)).parent := by
    rw [free.ofText_eq, Path.parent_child]
    exact consistent.root
  obtain ⟨grown, made⟩ := Vfs.exists_mkdir absent above
  have noSlash : Text.contains name "/" = false := Text.occurs_cons_of_not_mem free.unslashed []
  have noDots : Text.contains name ".." = false := Text.occurs_cons_of_not_mem free.undotted ['.']
  have named : name ≠ "." := by
    intro same
    exact free.undotted (by rw [same]; decide)
  have unheld : vfs.has (PathText.join "/" name) = false := by
    rw [joined, Bool.eq_false_iff, Ne, Vfs.has_iff]
    exact absent
  have added := Vfs.mkdir_added consistent made
  rw [free.ofText_eq] at added
  exact ⟨grown, (reaches.goRoot consistent).make free.word (by rw [noSlash, noDots]; rfl) named unheld made,
    added⟩

/-- From where it is not spelled as the start of the home, an entry that holds the home can
be moved into the new directory. -/
theorem Reaches.moveOut {entry : String} {grown : Vfs} (reaches : terminal.Reaches home cwd grown)
    (consistent : vfs.Consistent) (free : FreeName vfs name)
    (room : Vfs.Added vfs (Path.child Path.root name) .emptyDir grown) (word : Text.IsWord entry)
    (directory : vfs.IsDirectory (Path.ofText home))
    (within : (Path.ofText cwd).child entry <+: Path.ofText home)
    (apart : ¬ Command.continues home (PathText.join cwd entry) = true) :
    ∃ after, terminal.Reaches home cwd after ∧ ¬ after.IsDirectory (Path.ofText home) := by
  have segment : IsSegment entry := (Path.normal_child.mp ((Path.normal_ofText home).of_within within)).2
  have origin := PathText.ofText_join_segment cwd segment
  have target : Path.ofText (PathText.join ("/" ++ name) entry) =
      (Path.child Path.root name).child entry := by
    rw [PathText.ofText_join_segment _ segment, free.ofText_eq]
  rw [← origin] at within
  have ready := room.consistent consistent free.normal
  -- The entry is listed where the shell stands, and its place in the new directory is free.
  have nonroot : Path.ofText (PathText.join cwd entry) ≠ Path.root := origin ▸ Path.child_ne_root _ _
  have old := consistent.mem_of_within within directory.mem
  have outside := free.apart consistent old nonroot entry
  have held : Path.ofText (PathText.join cwd entry) ∈ grown.nodes := room.mem_iff.mpr (.inr old)
  obtain ⟨names, listing, listed⟩ := ready.listed held nonroot
  rw [origin, Path.parent_child, ← Vfs.children_eq_ok_iff] at listing
  rw [origin, Path.name_child] at listed
  have unheld := free.entry_unheld consistent room entry
  have movable : Vfs.Movable grown (Path.ofText (PathText.join cwd entry))
      (Path.ofText (PathText.join ("/" ++ name) entry)) := by
    rw [target]
    exact ⟨nonroot, held, unheld, outside, (Path.parent_child _ entry).symm ▸ room.isDirectory⟩
  obtain ⟨after, done⟩ := (Vfs.rename_eq_ok_iff ready).mpr ⟨nonroot, held, .inr movable⟩
  refine ⟨after, ?_, fun still => ?_⟩
  · have resolved := free.resolve_eq cwd
    refine reaches.move word free.isWord_slash listing listed apart ?_ ?_ ?_ ?_ ?_
    · rw [resolved, Vfs.isDir_iff, free.ofText_eq]
      exact room.isDirectory
    · intro same
      have path := congrArg Path.ofText same
      rw [resolved, target] at path
      exact outside (path ▸ List.prefix_refl _)
    · intro longer
      have path := Command.prefix_of_continues longer
      rw [resolved, free.ofText_eq] at path
      exact outside (path.trans (List.prefix_append _ _))
    · rw [resolved, Vfs.has_iff, target]
      exact unheld
    · rw [resolved]
      exact done
  · rcases Vfs.renamed_of_rename ready done with ⟨same, _⟩ | ⟨_, effect⟩
    · rw [target] at same
      exact outside (same ▸ List.prefix_refl _)
    · exact effect.cleared _ within still.mem

theorem Reaches.loseHome (start : terminal.Reaches home home vfs) (consistent : vfs.Consistent)
    (directory : vfs.IsDirectory (Path.ofText home)) (exposed : Exposed home) :
    ∃ cwd after, terminal.Reaches home cwd after ∧ ¬ after.IsDirectory (Path.ofText home) := by
  obtain ⟨cwd, entry, standpoint, word, within, apart⟩ := exposed
  obtain ⟨name, free⟩ := exists_freeName consistent
  obtain ⟨grown, atRoot, room⟩ := start.makeRoom consistent free
  have growth : Vfs.Growth vfs (Path.child Path.root name) grown := .added room
  have still := growth.isDirectory directory
  have back := atRoot.goHome (Vfs.isDir_iff.mpr still)
  have stands := back.stand (growth.consistent free.normal consistent) still standpoint
    ((List.prefix_append _ _).trans within)
  obtain ⟨after, reached, lost⟩ := stands.moveOut consistent free room word directory within apart
  exact ⟨cwd, after, reached, lost⟩

end move

/-- The home is a directory, and between dialogues a bare `cd` goes there and shows nothing
but itself. -/
structure KeepsHome (terminal : Terminal C) : Prop where
  directory : terminal.scene.vfs.isDir terminal.scene.session.home = true
  bareCd : terminal.scene.dialogue = none →
    (terminal.submit "cd").1.scene.session.cwd = terminal.scene.session.home ∧
      (terminal.submit "cd").1.scene.transcript = terminal.scene.transcript ++
        [.command "cd" terminal.scene.session.user terminal.scene.session.host]

theorem Housed.keepsHome {lesson : Lesson} {terminal : Terminal C} (housed : Housed lesson terminal) :
    terminal.KeepsHome := by
  have directory := housed.directory
  rw [← housed.sound.home, ← Vfs.isDir_iff] at directory
  refine ⟨directory, fun idle => ?_⟩
  have waits : terminal.Waits terminal.scene.session.home terminal.scene.session.cwd terminal.scene.vfs :=
    ⟨housed.registry, idle, rfl, rfl, rfl⟩
  exact waits.submit_cd directory

/-- The home is kept through every run exactly if its spelling is not exposed. -/
theorem home_kept_iff {lesson : Lesson} {terminal : Terminal C} (accepted : Terminal.new lesson = .ok terminal) :
    (∀ steps, (terminal.after steps).KeepsHome) ↔ ¬ Exposed lesson.home := by
  obtain ⟨_, vfs, loaded, rfl⟩ := new_eq_ok_iff.mp accepted
  have housed : Housed lesson (⟨lesson, .standard, .opening lesson vfs .empty⟩ : Terminal C) :=
    housed_opening loaded .empty
  constructor
  · intro kept exposed
    have start : Reaches (⟨lesson, .standard, .opening lesson vfs .empty⟩ : Terminal C)
        lesson.home lesson.home vfs := ⟨[], rfl, rfl, rfl, rfl, rfl⟩
    obtain ⟨cwd, files, ⟨steps, waits⟩, lost⟩ :=
      start.loseHome housed.sound.stands.consistent housed.directory exposed
    have directory := (kept steps).directory
    rw [waits.home, waits.vfs, Vfs.isDir_iff] at directory
    exact lost directory
  · intro safe steps
    have still := after_keeps housed (fun _ now next => now.take safe next) steps
    exact still.keepsHome

theorem home_kept_by_default : ∃ terminal : Terminal Empty, Terminal.new Lesson.default = .ok terminal ∧
    ∀ steps, (terminal.after steps).KeepsHome := by
  obtain ⟨terminal, accepted⟩ := exists_new_default (C := Empty)
  have tidy : Tidy Lesson.default.home := by
    rw [Tidy]
    decide +kernel
  exact ⟨terminal, accepted, (home_kept_iff accepted).mpr tidy.not_exposed⟩

theorem home_moved_away :
    let lesson := { Lesson.default with home := "/home//alumno" }
    ∃ terminal : Terminal Empty, Terminal.new lesson = .ok terminal ∧
      let lost := terminal.after [.submit "cd /home", .submit "mv alumno x"]
      lost.scene.vfs.isDir lost.scene.session.home = false ∧
      (lost.submit "cd").1.scene.transcript = lost.scene.transcript ++
        [.command "cd" "alumno" "laptop-local",
          .styled "bash: cd: /home//alumno: No such file or directory" .error] := by
  intro lesson
  exact exists_new_of_any (by decide +kernel)

end Terminal
end LessonShell

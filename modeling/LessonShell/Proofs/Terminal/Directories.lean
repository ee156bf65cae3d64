import LessonShell.Proofs.Terminal.Addresses
import LessonShell.Proofs.Terminal.Attempts
import LessonShell.Proofs.Terminal.Lines

/-! A new directory, as the commands on directories show it. `mkdir` joins the name to the spelling of
the working directory, `cd` resolves it from there, and `ls` reads the list of the working directory;
where no segment is a direction, all three mean the same entry. -/
namespace LessonShell

namespace Command
variable {C : Type} {line : String} {lesson : Lesson} {scene : Scene (Dialogue C)} {args names : List String}

/-- What `ls` says of the names that it shows. -/
def listing (names : List String) : CommandOutput :=
  if names.isEmpty then .silent else .text ("  ".intercalate names)

end Command

/-- A name that `mkdir` accepts and that a line can spell. -/
structure EntryName (name : String) : Prop where
  word : Text.IsWord name
  unslashed : Text.contains name "/" = false
  undotted : Text.contains name ".." = false
  other : name ≠ "."

namespace EntryName
variable {name : String}

theorem simple (entry : EntryName name) : (Text.contains name "/" || Text.contains name "..") = false := by
  rw [entry.unslashed, entry.undotted]
  rfl

theorem segment (entry : EntryName name) : IsSegment name := by
  refine ⟨entry.word.1, fun slash => ?_⟩
  have found : Text.contains name "/" = true := Text.occurs_singleton_of_mem slash
  rw [entry.unslashed] at found
  cases found

theorem words (entry : EntryName name) : ∀ arg ∈ [name], Text.IsWord arg :=
  fun _ member => List.mem_singleton.mp member ▸ entry.word

theorem up (entry : EntryName name) : name ≠ ".." := by
  rintro rfl
  exact absurd entry.undotted (by decide)

end EntryName

namespace Terminal
variable {C : Type} {lesson : Lesson} {before : Terminal C}

variable [CustomDialogue C]

/-- `mkdir` of a new name ends the list of the working directory with it, an empty directory is there, and
nothing else has changed. -/
structure Makes (before : Terminal C) (name : String) (names : List String) : Prop where
  outcome : before.outcome? (callLine "mkdir" [name]) = some (.ok .silent)
  absent : (Path.ofText before.scene.session.cwd).child name ∉ before.scene.vfs.nodes
  listed : before.scene.vfs.nodes[Path.ofText before.scene.session.cwd]? = some (.dir names)
  lookup : ∀ path, (before.submit (callLine "mkdir" [name])).1.scene.vfs.nodes[path]? =
    if path = (Path.ofText before.scene.session.cwd).child name then some .emptyDir
    else if path = Path.ofText before.scene.session.cwd then some (.dir (names ++ [name]))
    else before.scene.vfs.nodes[path]?
  session : (before.submit (callLine "mkdir" [name])).1.scene.session = before.scene.session
  dialogue : (before.submit (callLine "mkdir" [name])).1.scene.dialogue = none

/-- `cd` goes to where the name leads from the working directory, which is an empty directory. -/
structure Enters (before : Terminal C) (name : String) : Prop where
  outcome : before.outcome? (callLine "cd" [name]) = some (.ok .silent)
  session : (before.submit (callLine "cd" [name])).1.scene.session =
    { before.scene.session with cwd := PathText.resolve before.scene.session.cwd name }
  vfs : (before.submit (callLine "cd" [name])).1.scene.vfs = before.scene.vfs
  empty : before.scene.vfs.children (PathText.resolve before.scene.session.cwd name) = .ok []
  dialogue : (before.submit (callLine "cd" [name])).1.scene.dialogue = none

section commands
variable {name : String} {names : List String}

theorem Makes.cwd (makes : Makes before name names) :
    (before.submit (callLine "mkdir" [name])).1.scene.session.cwd = before.scene.session.cwd := by
  rw [makes.session]

theorem Makes.entry (makes : Makes before name names) :
    let made := (before.submit (callLine "mkdir" [name])).1
    made.scene.vfs.nodes[(Path.ofText made.scene.session.cwd).child name]? = some .emptyDir := by
  intro made
  rw [makes.cwd, makes.lookup, if_pos rfl]

theorem Makes.children (makes : Makes before name names) :
    let made := (before.submit (callLine "mkdir" [name])).1
    made.scene.vfs.children made.scene.session.cwd = .ok (names ++ [name]) := by
  intro made
  have differs : Path.ofText before.scene.session.cwd ≠ (Path.ofText before.scene.session.cwd).child name :=
    fun same => Path.not_child_within _ name ⟨[], by rw [List.append_nil, ← same]⟩
  rw [Vfs.children_eq_ok_iff, makes.cwd, makes.lookup, if_neg differs, if_pos rfl]

theorem Enters.cwd (enters : Enters before name) :
    (before.submit (callLine "cd" [name])).1.scene.session.cwd =
      PathText.resolve before.scene.session.cwd name := by
  rw [enters.session]

end commands

end Terminal
end LessonShell

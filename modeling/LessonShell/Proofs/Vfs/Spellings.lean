import LessonShell.Proofs.Spelling
import LessonShell.Proofs.Vfs.Consistent
import LessonShell.Vfs.Rename

/-! Spellings of one path. Text that passes the test for the normal form is the text that its segments are
joined to, so the test never keeps what the joining would change. The file system knows a path by its
segments alone: it answers two spellings alike, faults included, exactly if their normal forms are equal. -/
namespace LessonShell

theorem Path.join_slashed (name : String) (rest : Path) :
    String.join ((name :: rest).map ("/" ++ ·)) = "/" ++ "/".intercalate (name :: rest) := by
  induction rest generalizing name with
  | nil => simp
  | cons next more ih =>
    rw [List.map_cons, String.join_cons, ih, String.intercalate_cons_cons]
    simp only [String.append_assoc]

theorem Path.text_eq_intercalate (path : Path) : path.text = "/" ++ "/".intercalate path := by
  cases path with
  | nil => rfl
  | cons name rest => exact join_slashed name rest

namespace PathText

theorem normalize_eq_self_iff {text : String} : normalize text = text ↔ isNormal text.toList = true := by
  constructor
  · intro same
    rw [← same]
    exact isNormal_normalize text
  · intro normal
    rw [normalize, if_pos normal]

theorem normalize_normalize (text : String) : normalize (normalize text) = normalize text :=
  normalize_eq_self_iff.mpr (isNormal_normalize text)

theorem normalize_eq_intercalate (text : String) :
    normalize text = "/" ++ "/".intercalate (Path.ofText text) := by
  rw [normalize_eq, Path.text_eq_intercalate]

end PathText

namespace Vfs

/-- Two spellings that no operation tells apart, neither by its result nor by its fault. -/
structure Interchangeable (vfs : Vfs) (first second : String) : Prop where
  get : vfs.get? first = vfs.get? second
  children : vfs.children first = vfs.children second
  read : vfs.read first = vfs.read second
  mkdir : vfs.mkdir first = vfs.mkdir second
  ensureDir : vfs.ensureDir first = vfs.ensureDir second
  touch : vfs.touch first = vfs.touch second
  write (content : String) : vfs.write first content = vfs.write second content
  renameFrom (target : String) : vfs.rename first target = vfs.rename second target
  renameTo (source : String) : vfs.rename source first = vfs.rename source second

theorem Interchangeable.of_segments {first second : String} (same : Path.ofText first = Path.ofText second)
    (vfs : Vfs) : vfs.Interchangeable first second where
  get := by rw [get?, get?, same]
  children := by rw [Vfs.children, Vfs.children, get?, get?, same]
  read := by rw [Vfs.read, Vfs.read, get?, get?, same]
  mkdir := by rw [Vfs.mkdir, Vfs.mkdir, same]
  ensureDir := by rw [Vfs.ensureDir, Vfs.ensureDir, same]
  touch := by rw [Vfs.touch, Vfs.touch, same]
  write content := by rw [Vfs.write, Vfs.write, same]
  renameFrom target := by rw [rename, rename, same]
  renameTo source := by rw [rename, rename, same]

/-- Where there is nothing but the root, every fault names the path that was asked for. -/
theorem read_empty (text : String) : Vfs.empty.read text =
    .error (if Path.ofText text = Path.root then .isDirectory Path.root else .noFile (Path.ofText text)) := by
  have found : Vfs.empty.get? text = if Path.ofText text = Path.root then some .emptyDir else none := by
    rw [get?, empty, getElem?_insert]
    simp [eq_comm]
  rw [Vfs.read, found]
  split <;> simp_all [Node.emptyDir]

theorem segments_of_read_empty {first second : String} (same : Vfs.empty.read first = Vfs.empty.read second) :
    Path.ofText first = Path.ofText second := by
  rw [read_empty, read_empty, Except.error.injEq] at same
  split at same <;> split at same <;> simp_all

end Vfs

/-- The normal form joins the segments, is kept when it is spelled again, and is what the test of a text
accepts. Two spellings have the same one exactly if they have the same segments, and exactly then every
operation on every file system answers both alike. -/
theorem PathText.normalize_canonical (first second : String) :
    normalize first = "/" ++ "/".intercalate ((Text.splitOn '/' first).filter (· ≠ "")) ∧
    normalize (normalize first) = normalize first ∧
    (normalize first = first ↔ isNormal first.toList = true) ∧
    (normalize first = normalize second ↔
      (Text.splitOn '/' first).filter (· ≠ "") = (Text.splitOn '/' second).filter (· ≠ "")) ∧
    ((∀ vfs : Vfs, vfs.Interchangeable first second) ↔
      (Text.splitOn '/' first).filter (· ≠ "") = (Text.splitOn '/' second).filter (· ≠ "")) := by
  simp only [← ofText_eq_filter]
  refine ⟨normalize_eq_intercalate first, normalize_normalize first, normalize_eq_self_iff, normalize_eq_iff, ?_⟩
  constructor
  · intro alike
    exact Vfs.segments_of_read_empty (alike Vfs.empty).read
  · intro same
    exact Vfs.Interchangeable.of_segments same

end LessonShell

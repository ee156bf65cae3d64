import LessonShell.Vfs.Basic

/-! Refused operations on one node. Each looks at everything it needs before it changes anything,
so what it returns beside a fault is the file system that it was given. -/
namespace LessonShell.Vfs
variable {vfs left : Vfs} {path : Path} {node : Node} {text content : String} {fault : Fault}

theorem editSiblings_refused {edit : List String → List String}
    (refused : vfs.editSiblings path edit = (.error fault, left)) : left = vfs := by
  unfold editSiblings at refused
  split at refused
  · cases refused
  · exact (Prod.mk.inj refused).2.symm

theorem insertNew_refused (refused : vfs.insertNew path node = (.error fault, left)) : left = vfs := by
  unfold insertNew at refused
  split at refused
  · cases refused
  · next unlisted =>
    cases refused
    exact editSiblings_refused unlisted

theorem create_refused (refused : vfs.create path node = (.error fault, left)) : left = vfs := by
  unfold create at refused
  split at refused
  · cases refused
  · next unmade =>
    cases refused
    exact insertNew_refused unmade

theorem mkdir_refused (refused : vfs.mkdir text = (.error fault, left)) : left = vfs := by
  simp only [mkdir] at refused
  split at refused
  · exact (Prod.mk.inj refused).2.symm
  · exact insertNew_refused refused

theorem ensureDir_refused (refused : vfs.ensureDir text = (.error fault, left)) : left = vfs := by
  simp only [ensureDir] at refused
  split at refused
  · cases refused
  · exact (Prod.mk.inj refused).2.symm
  · exact create_refused refused

theorem write_refused (refused : vfs.write text content = (.error fault, left)) : left = vfs := by
  simp only [write] at refused
  split at refused
  · cases refused
  · exact (Prod.mk.inj refused).2.symm
  · exact create_refused refused

theorem touch_refused (refused : vfs.touch text = (.error fault, left)) : left = vfs := by
  simp only [touch] at refused
  split at refused
  · cases refused
  · exact create_refused refused

end LessonShell.Vfs

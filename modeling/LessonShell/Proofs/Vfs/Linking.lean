import LessonShell.Proofs.Vfs.Consistent
import LessonShell.Vfs.Snapshot
import Mathlib.Data.List.Infix

/-! Creating the directories above a path. Each of them lists the next segment, after the names
it listed before, and nothing else changes; only a file in one of those places is in the way. -/
namespace LessonShell

/-- The name under which `path` lies in the directory `top`, if it lies below it. -/
def Path.toward (top path : Path) : Option String := if top <+: path then path[top.length]? else none

namespace Path

theorem toward_eq_some_iff {top path : Path} {name : String} :
    top.toward path = some name ↔ top.child name <+: path := by
  unfold toward
  constructor
  · intro found
    split at found
    · next within =>
      obtain ⟨rest, rfl⟩ := within
      cases rest with
      | nil => simp at found
      | cons first more =>
        obtain rfl : first = name := by simpa using found
        exact ⟨more, by simp [child]⟩
    · cases found
  · rintro ⟨rest, rfl⟩
    simp [child]

theorem exists_toward_iff {top path : Path} :
    (∃ name, top.toward path = some name) ↔ top <+: path ∧ top ≠ path := by
  simp only [toward_eq_some_iff]
  constructor
  · rintro ⟨name, within⟩
    refine ⟨(List.prefix_append top [name]).trans within, ?_⟩
    rintro rfl
    exact not_child_within top name within
  · rintro ⟨⟨rest, rfl⟩, differs⟩
    cases rest with
    | nil => simp at differs
    | cons first more => exact ⟨first, more, by simp [child]⟩

theorem toward_eq_none_iff {top path : Path} :
    top.toward path = none ↔ ¬ (top <+: path ∧ top ≠ path) := by
  rw [← exists_toward_iff, Option.eq_none_iff_forall_ne_some, not_exists]

@[simp] theorem toward_child_self (path : Path) (name : String) :
    path.toward (path.child name) = some name :=
  toward_eq_some_iff.mpr (List.prefix_refl _)

theorem toward_child_of_ne {top path : Path} (differs : top ≠ path) (name : String) :
    top.toward (path.child name) = top.toward path := by
  apply Option.ext
  intro step
  rw [toward_eq_some_iff, toward_eq_some_iff]
  constructor
  · intro within
    rcases List.prefix_concat_iff.mp within with same | above
    · have tops := congrArg parent same
      rw [parent_child] at tops
      exact absurd (tops.trans (parent_child path name)) differs
    · exact above
  · intro within
    exact within.trans (List.prefix_append path [name])

end Path

namespace Vfs

def listAll (children added : List String) : List String :=
  added.foldl (fun names name => listName name names) children

theorem prefix_listName (name : String) (children : List String) : children <+: listName name children := by
  unfold listName
  split
  · exact List.prefix_refl _
  · exact List.prefix_append _ _

theorem nodup_listName {name : String} {children : List String} (distinct : children.Nodup) :
    (listName name children).Nodup := by
  unfold listName
  split
  · exact distinct
  · next fresh =>
    refine List.nodup_append.mpr ⟨distinct, by simp, ?_⟩
    intro other held last added same
    exact fresh (List.mem_singleton.mp added ▸ same ▸ held)

theorem listAll_append (children first second : List String) :
    listAll children (first ++ second) = listAll (listAll children first) second :=
  List.foldl_append

theorem prefix_listAll (children added : List String) : children <+: listAll children added := by
  induction added generalizing children with
  | nil => exact List.prefix_refl _
  | cons first rest ih => exact (prefix_listName first children).trans (ih _)

theorem nodup_listAll_iff {children added : List String} :
    (listAll children added).Nodup ↔ children.Nodup := by
  constructor
  · exact (prefix_listAll children added).sublist.nodup
  · intro distinct
    induction added generalizing children with
    | nil => exact distinct
    | cons first rest ih => exact ih (nodup_listName distinct)

theorem eraseDups_concat (front : List String) (last : String) :
    (front ++ [last]).eraseDups = listName last front.eraseDups := by
  rw [List.eraseDups_append]
  by_cases listed : last ∈ front
  · simp [listName, List.removeAll, listed]
  · simp [listName, List.removeAll, listed, List.eraseDups_cons]

/-- Listing names one by one keeps the first occurrence of each. -/
theorem listAll_nil (added : List String) : listAll [] added = added.eraseDups := by
  induction added using List.reverseRecOn with
  | nil => rfl
  | append_singleton front last ih =>
    rw [listAll_append, ih, eraseDups_concat]
    rfl

theorem eraseDups_append_congr {first second : List String} (same : first.eraseDups = second.eraseDups)
    (rest : List String) : (first ++ rest).eraseDups = (second ++ rest).eraseDups := by
  rw [← listAll_nil, ← listAll_nil, listAll_append, listAll_append, listAll_nil, listAll_nil, same]

theorem eraseDups_listName (name : String) (children : List String) :
    (listName name children).eraseDups = (children ++ [name]).eraseDups := by
  unfold listName
  split
  · next listed => simp [List.eraseDups_append, List.removeAll, listed]
  · rfl

theorem eraseDups_listAll (children added : List String) :
    (listAll children added).eraseDups = (children ++ added).eraseDups := by
  induction added generalizing children with
  | nil => simp [listAll]
  | cons first rest ih =>
    change (listAll (listName first children) rest).eraseDups = _
    rw [ih, eraseDups_append_congr (eraseDups_listName first children), List.append_assoc]
    rfl

theorem eraseDups_of_nodup {names : List String} (distinct : names.Nodup) : names.eraseDups = names := by
  induction names using List.reverseRecOn with
  | nil => rfl
  | append_singleton front last ih =>
    obtain ⟨earlier, _, apart⟩ := List.nodup_append.mp distinct
    have fresh : last ∉ front := fun member => apart last member last List.mem_cons_self rfl
    rw [eraseDups_concat, ih earlier, listName, if_neg fresh]

/-- What the directory `path` lists; nothing if there is no such directory. -/
def listedAt (vfs : Vfs) (path : Path) : List String :=
  match vfs.nodes[path]? with
  | some (.dir children) => children
  | _ => []

/-- A file stands where a directory above `path` is needed. -/
def Blocked (vfs : Vfs) (path : Path) : Prop :=
  ∃ top content, top <+: path ∧ top ≠ path ∧ vfs.nodes[top]? = some (.file content)

/-- The node at `other` once every directory above `path` is there and lists the next segment. -/
def linkedNode (vfs : Vfs) (path other : Path) : Option Node :=
  match other.toward path with
  | some name => some (.dir (listName name (vfs.listedAt other)))
  | none => vfs.nodes[other]?

section linking
variable {vfs : Vfs} {path : Path} {name : String}

theorem linkUpward_child_file {content : String} (file : vfs.nodes[path]? = some (.file content)) :
    vfs.linkUpward (path.child name).reverse = .error (.childOfFile path name) := by
  simp [Path.child, linkUpward, file]

theorem linkUpward_child (unfiled : ∀ content, vfs.nodes[path]? ≠ some (.file content)) :
    vfs.linkUpward (path.child name).reverse =
      linkUpward ⟨vfs.nodes.insert path (.dir (listName name (vfs.listedAt path)))⟩ path.reverse := by
  rw [Path.child, List.reverse_append, List.reverse_singleton, List.singleton_append, linkUpward,
    List.reverse_reverse, listedAt]
  cases found : vfs.nodes[path]? with
  | none => rfl
  | some node =>
    cases node with
    | dir children => rfl
    | file content => exact absurd found (unfiled content)

theorem blocked_child_iff : Blocked vfs (path.child name) ↔
    (∃ content, vfs.nodes[path]? = some (.file content)) ∨ Blocked vfs path := by
  constructor
  · rintro ⟨top, content, within, differs, file⟩
    rcases List.prefix_concat_iff.mp within with same | above
    · exact absurd same differs
    · by_cases here : top = path
      · exact .inl ⟨content, here ▸ file⟩
      · exact .inr ⟨top, content, above, here, file⟩
  · rintro (⟨content, file⟩ | ⟨top, content, within, differs, file⟩)
    · refine ⟨path, content, List.prefix_append path [name], ?_, file⟩
      intro same
      exact Path.not_child_within path name (same ▸ List.prefix_refl path)
    · refine ⟨top, content, within.trans (List.prefix_append path [name]), ?_, file⟩
      rintro rfl
      exact Path.not_child_within path name within

theorem blocked_insert_iff (node : Node) :
    Blocked ⟨vfs.nodes.insert path node⟩ path ↔ Blocked vfs path := by
  unfold Blocked
  apply exists_congr
  intro top
  apply exists_congr
  intro content
  apply and_congr_right
  intro within
  apply and_congr_right
  intro differs
  rw [getElem?_insert, if_neg (Ne.symm differs)]

theorem exists_linkUpward (free : ¬ Blocked vfs path) :
    ∃ after, vfs.linkUpward path.reverse = .ok after ∧
      ∀ other, after.nodes[other]? = vfs.linkedNode path other := by
  induction path using List.reverseRecOn generalizing vfs with
  | nil =>
    refine ⟨vfs, rfl, fun other => ?_⟩
    have beside : other.toward [] = none :=
      Path.toward_eq_none_iff.mpr fun both => both.2 (List.prefix_nil.mp both.1)
    rw [linkedNode, beside]
  | append_singleton above name ih =>
    change ¬ Blocked vfs (Path.child above name) at free
    rw [blocked_child_iff, not_or, not_exists] at free
    obtain ⟨unfiled, open_⟩ := free
    let node : Node := .dir (listName name (vfs.listedAt above))
    obtain ⟨after, linked, lookup⟩ := ih ((blocked_insert_iff node).not.mpr open_)
    refine ⟨after, (linkUpward_child unfiled).trans linked, fun other => ?_⟩
    change _ = vfs.linkedNode (Path.child above name) other
    rw [lookup, linkedNode, linkedNode]
    -- Only the directory just written differs; the rest of the way is the one above it.
    by_cases here : other = above
    · subst here
      have beside : other.toward other = none := Path.toward_eq_none_iff.mpr fun both => both.2 rfl
      rw [beside, Path.toward_child_self]
      simp [node]
    · rw [Path.toward_child_of_ne here, listedAt, listedAt, getElem?_insert, if_neg (Ne.symm here)]

theorem exists_linkUpward_error (blocked : Blocked vfs path) :
    ∃ breach, vfs.linkUpward path.reverse = .error breach := by
  induction path using List.reverseRecOn generalizing vfs with
  | nil =>
    obtain ⟨top, content, within, differs, file⟩ := blocked
    exact absurd (List.prefix_nil.mp within) differs
  | append_singleton above name ih =>
    by_cases filed : ∃ content, vfs.nodes[above]? = some (.file content)
    · obtain ⟨content, file⟩ := filed
      exact ⟨_, linkUpward_child_file file⟩
    · have higher := (blocked_child_iff.mp blocked).resolve_left filed
      obtain ⟨breach, failed⟩ :=
        ih ((blocked_insert_iff (.dir (listName name (vfs.listedAt above)))).mpr higher)
      exact ⟨breach, (linkUpward_child (not_exists.mp filed)).trans failed⟩

end linking

end Vfs
end LessonShell

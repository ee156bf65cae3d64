import LessonShell.Proofs.KeyPair
import LessonShell.Vfs.Snapshot

/-! File systems without a segment that a spelled path would read as a direction. A snapshot
brings only its keys and the directories above them, an operation only the path it is given,
so such names never enter where none is let in. -/
namespace LessonShell

namespace Path
variable {front back path : Path} {name : String}

theorem plain_append : (front ++ back).Plain ↔ front.Plain ∧ back.Plain := by
  simp only [Plain, List.mem_append, not_or]
  tauto

theorem plain_singleton : Plain [name] ↔ name ≠ "." ∧ name ≠ ".." := by
  simp [Plain, eq_comm]

theorem plain_child : (path.child name).Plain ↔ path.Plain ∧ name ≠ "." ∧ name ≠ ".." := by
  rw [child, plain_append, plain_singleton]

end Path

namespace Vfs

/-- No key has a dot or a double dot for a segment. -/
def Plain (vfs : Vfs) : Prop := ∀ path ∈ vfs.nodes, path.Plain

section operations
variable {before after : Vfs} {path : Path}

theorem Plain.insert (plain : before.Plain) (here : path.Plain) (node : Node) :
    Plain ⟨before.nodes.insert path node⟩ := by
  intro other member
  rcases Std.ExtTreeMap.mem_insert.mp member with same | old
  · exact Path.order_eq_iff.mp same ▸ here
  · exact plain other old

theorem Growth.plain (growth : Growth before path after) (plain : before.Plain) (here : path.Plain) :
    after.Plain := by
  intro other member
  cases growth with
  | same => exact plain other member
  | overwritten change => exact plain other (change.mem_iff.mp member)
  | added change =>
    rcases change.mem_iff.mp member with rfl | old
    · exact here
    · exact plain other old

theorem rename_plain (consistent : before.Consistent) {sourceText targetText : String}
    (done : before.rename sourceText targetText = (.ok (), after)) (plain : before.Plain)
    (there : (Path.ofText targetText).Plain) : after.Plain := by
  rcases renamed_of_rename consistent done with ⟨_, rfl⟩ | ⟨movable, effect⟩
  · exact plain
  · intro path member
    rcases effect.mem_cases consistent movable member with ⟨rest, rfl, moved⟩ | ⟨old, _⟩
    · exact Path.plain_append.mpr ⟨there, (Path.plain_append.mp (plain _ moved)).2⟩
    · exact plain path old

theorem install_plain (consistent : before.Consistent) (plain : before.Plain) {home name : String}
    (housed : (Path.ofText home).Plain) (segment : IsSegment name) (dot : name ≠ ".") (up : name ≠ "..")
    (algorithm comment : String) : (KeyPair.install before home name algorithm comment).2.Plain := by
  have directory : Path.ofText (KeyPair.directory home) = (Path.ofText home).child ".ssh" :=
    PathText.ofText_join_segment home (by decide)
  have ssh : (Path.ofText (KeyPair.directory home)).Plain := by
    rw [directory]
    exact Path.plain_child.mpr ⟨housed, by decide, by decide⟩
  have inside {file : String} (segment : IsSegment file) (dot : file ≠ ".") (up : file ≠ "..") :
      (Path.ofText (PathText.join (KeyPair.directory home) file)).Plain := by
    rw [PathText.ofText_join_segment _ segment]
    exact Path.plain_child.mpr ⟨ssh, dot, up⟩
  have longer {short : String} (few : short.length < 4) : name ++ ".pub" ≠ short := by
    rintro rfl
    rw [String.length_append, show ".pub".length = 4 by decide] at few
    omega
  obtain ⟨prepared, half, first, second, third⟩ := install_growth consistent home name algorithm comment
  rw [PathText.join_append] at third
  have ready := first.growth.plain plain ssh
  have halfway := second.plain ready (inside segment dot up)
  exact third.plain halfway (inside (KeyPair.isSegment_public segment) (longer (by decide)) (longer (by decide)))

end operations

section loading
variable {vfs after : Vfs}

theorem define_plain {path : Path} {node : Node} (plain : vfs.Plain) (here : path.Plain)
    (done : vfs.define path node = .ok after) : after.Plain := by
  unfold define at done
  split at done
  · exact Except.ok.inj done ▸ plain.insert here _
  · exact Except.ok.inj done ▸ plain.insert here _
  · cases done

theorem linkUpward_plain {names : List String} (plain : vfs.Plain) (here : Path.Plain names.reverse)
    (done : vfs.linkUpward names = .ok after) : after.Plain := by
  induction names generalizing vfs with
  | nil => exact Except.ok.inj done ▸ plain
  | cons name above ih =>
    rw [List.reverse_cons] at here
    have parent := (Path.plain_append.mp here).1
    rw [linkUpward] at done
    split at done
    · exact ih (plain.insert parent _) parent done
    · cases done

theorem load_plain {entry : String × Node} (plain : vfs.Plain) (here : (Path.ofText entry.1).Plain)
    (done : vfs.load entry = .ok after) : after.Plain := by
  unfold load at done
  cases defined : vfs.define (Path.ofText entry.1) entry.2 with
  | error breach => simp [defined, bind, Except.bind] at done
  | ok grown =>
    simp only [defined, bind, Except.bind] at done
    exact linkUpward_plain (define_plain plain here defined) (by rwa [List.reverse_reverse]) done

theorem foldlM_load_plain {entries : List (String × Node)} (plain : vfs.Plain)
    (all : ∀ entry ∈ entries, (Path.ofText entry.1).Plain)
    (done : entries.foldlM load vfs = .ok after) : after.Plain := by
  induction entries generalizing vfs with
  | nil => exact Except.ok.inj done ▸ plain
  | cons entry rest ih =>
    obtain ⟨here, others⟩ := List.forall_mem_cons.mp all
    rw [List.foldlM_cons] at done
    cases loaded : vfs.load entry with
    | error breach => simp [loaded, bind, Except.bind] at done
    | ok grown =>
      simp only [loaded, bind, Except.bind] at done
      exact ih (load_plain plain here loaded) others done

theorem empty_plain : Vfs.empty.Plain := by
  intro path member
  rcases Std.ExtTreeMap.mem_insert.mp member with same | none
  · rw [← Path.order_eq_iff.mp same]
    exact ⟨List.not_mem_nil, List.not_mem_nil⟩
  · exact absurd none Std.ExtTreeMap.not_mem_empty

theorem plain_of_ofSnapshot {snapshot : Snapshot} (all : ∀ key ∈ snapshot, (Path.ofText key).Plain)
    (accepted : ofSnapshot snapshot = .ok vfs) : vfs.Plain := by
  unfold ofSnapshot at accepted
  cases folded : snapshot.toList.foldlM load Vfs.empty with
  | error breach => simp [folded, bind, Except.bind] at accepted
  | ok built =>
    simp only [folded, bind, Except.bind] at accepted
    split at accepted
    · cases accepted
    · refine Except.ok.inj accepted ▸ foldlM_load_plain empty_plain (fun entry member => ?_) folded
      have found := Std.ExtTreeMap.mem_toList_iff_getElem?_eq_some.mp member
      exact all entry.1 (Std.ExtTreeMap.mem_iff_isSome_getElem?.mpr (by rw [found]; rfl))

end loading
end Vfs
end LessonShell

import LessonShell.Proofs.Vfs.Retention

/-! Key pairs are found again. The search has a key to offer exactly if the `.ssh` directory lists
both halves of a pair. Once both have been written they are files of that directory; so it finds
this pair or another. -/
namespace LessonShell

theorem PathText.join_append (dir name ending : String) : join dir name ++ ending = join dir (name ++ ending) := by
  unfold join
  split
  · rw [String.append_assoc]
  · rw [String.append_assoc]

theorem Text.stripEnd?_eq_some_iff {text ending kept : String} :
    stripEnd? text ending = some kept ↔ text = kept ++ ending := by
  unfold stripEnd?
  extract_lets length
  split
  · next ends =>
    obtain ⟨front, spelled⟩ := List.isSuffixOf_iff_suffix.mp ends
    have taken : text.toList.take length = front := by simp [length, ← spelled]
    rw [taken, Option.some.injEq, ← String.toList_inj, ← String.toList_inj, String.toList_append, ← spelled]
    simp
  · next other =>
    refine iff_of_false nofun ?_
    rintro rfl
    exact other (List.isSuffixOf_iff_suffix.mpr (by simp))

namespace KeyPair
variable {vfs after : Vfs} {home name algorithm comment : String}

theorem isFile_of_install (consistent : vfs.Consistent) {paths : String × String}
    (done : install vfs home name algorithm comment = (.ok paths, after)) :
    after.isFile (PathText.join (directory home) name) = true ∧
      after.isFile (PathText.join (directory home) (name ++ ".pub")) = true := by
  unfold install at done
  simp only at done
  split at done
  · cases done
  · next made prepared ensured =>
    have ready := Vfs.ensureDir_consistent consistent ensured
    split at done
    · cases done
    · next new half written =>
      have halfway := Vfs.write_consistent ready written
      split at done
      · cases done
      · next other whole finished =>
        cases done
        -- The second write may grow the directory, but it takes no file away.
        have kept := (Vfs.write_growth halfway finished).retained
        obtain ⟨now, still, _⟩ := kept.files _ _ (Vfs.write_lookup written)
        rw [PathText.join_append] at finished
        exact ⟨Vfs.isFile_iff.mpr ⟨_, still⟩, Vfs.isFile_iff.mpr ⟨_, Vfs.write_lookup finished⟩⟩

theorem isSegment_public (segment : IsSegment name) : IsSegment (name ++ ".pub") := by
  refine ⟨fun empty => ?_, fun slash => ?_⟩
  · simpa using congrArg String.toList empty
  · rw [String.toList_append, List.mem_append] at slash
    exact slash.elim segment.2 (by decide)

/-- A private file and the public one of its name, both listed under `.ssh`. -/
def Offered (vfs : Vfs) (home : String) : Prop :=
  ∃ names name, vfs.children (directory home) = .ok names ∧ name ∈ names ∧ name ++ ".pub" ∈ names ∧
    vfs.isFile (PathText.join (directory home) name) = true ∧
    vfs.isFile (PathText.join (directory home) (name ++ ".pub")) = true

theorem listed_of_isFile (consistent : vfs.Consistent) {dir : String} (segment : IsSegment name)
    (present : vfs.isFile (PathText.join dir name) = true) :
    ∃ names, vfs.children dir = .ok names ∧ name ∈ names := by
  obtain ⟨content, file⟩ := Vfs.isFile_iff.mp present
  rw [PathText.ofText_join_segment _ segment] at file
  obtain ⟨names, above, listed⟩ :=
    consistent.listed (Vfs.mem_nodes_iff.mpr ⟨_, file⟩) (Path.child_ne_root _ _)
  rw [Path.parent_child] at above
  rw [Path.name_child] at listed
  exact ⟨names, Vfs.children_eq_ok_iff.mpr above, listed⟩

theorem isComplete_iff : isComplete vfs home name = true ↔ ∃ base, name = base ++ ".pub" ∧
    vfs.isFile (PathText.join (directory home) name) = true ∧
    vfs.isFile (PathText.join (directory home) base) = true := by
  unfold isComplete
  split
  · next base stripped =>
    rw [Bool.and_eq_true]
    constructor
    · rintro ⟨shared, secret⟩
      exact ⟨base, Text.stripEnd?_eq_some_iff.mp stripped, shared, secret⟩
    · rintro ⟨other, spelled, shared, secret⟩
      rw [Text.stripEnd?_eq_some_iff.mpr spelled] at stripped
      exact ⟨shared, Option.some.inj stripped ▸ secret⟩
  · next unstripped =>
    refine iff_of_false Bool.false_ne_true ?_
    rintro ⟨base, spelled, -⟩
    rw [Text.stripEnd?_eq_some_iff.mpr spelled] at unstripped
    cases unstripped

theorem find?_isSome_iff (consistent : vfs.Consistent) :
    (find? vfs home).isSome = true ↔ Offered vfs home := by
  constructor
  · intro found
    unfold find? at found
    split at found
    · next names listing =>
      obtain ⟨shared, listed, complete⟩ := List.find?_isSome.mp found
      obtain ⟨base, rfl, public_, secret⟩ := isComplete_iff.mp complete
      have below := Vfs.children_eq_ok_iff.mp listing
      have segment := consistent.segments below _ listed
      have named : IsSegment base := by
        refine ⟨?_, fun slash => segment.2 (by simp [slash])⟩
        -- Without a name of its own the private file would be the directory itself.
        rintro rfl
        obtain ⟨content, file⟩ := Vfs.isFile_iff.mp secret
        rw [PathText.ofText_join, Path.ofText_empty, Path.root, List.append_nil, below] at file
        cases file
      obtain ⟨others, again, inside⟩ := listed_of_isFile consistent named secret
      rw [listing] at again
      obtain rfl := Except.ok.inj again
      exact ⟨names, base, listing, inside, listed, secret, public_⟩
    · cases found
  · rintro ⟨names, base, listing, -, listed, secret, public_⟩
    rw [find?, listing]
    exact List.find?_isSome.mpr ⟨_, listed, isComplete_iff.mpr ⟨base, rfl, public_, secret⟩⟩

theorem find?_of_isFile (consistent : vfs.Consistent) (segment : IsSegment name)
    (secret : vfs.isFile (PathText.join (directory home) name) = true)
    (shared : vfs.isFile (PathText.join (directory home) (name ++ ".pub")) = true) :
    ∃ publicKey, find? vfs home = some publicKey := by
  obtain ⟨names, listing, inside⟩ := listed_of_isFile consistent segment secret
  obtain ⟨others, again, listed⟩ := listed_of_isFile consistent (isSegment_public segment) shared
  rw [listing] at again
  obtain rfl := Except.ok.inj again
  exact Option.isSome_iff_exists.mp
    ((find?_isSome_iff consistent).mpr ⟨names, name, listing, inside, listed, secret, shared⟩)

end KeyPair
end LessonShell

import LessonShell.Proofs.Vfs.Renaming
import LessonShell.Shell.FileRequest
import LessonShell.Vfs.Snapshot

/-! Sequences of requests. A file system that is empty or was loaded from a snapshot is
consistent, every request keeps it so, and a refused one leaves the files alone unless it
was a key installation. -/
namespace LessonShell

namespace Vfs

inductive Origin : Vfs → Prop
  | empty : Origin Vfs.empty
  | loaded {snapshot : Snapshot} {vfs : Vfs} (accepted : ofSnapshot snapshot = .ok vfs) : Origin vfs

theorem consistent_of_ofSnapshot {snapshot : Snapshot} {vfs : Vfs}
    (accepted : ofSnapshot snapshot = .ok vfs) : vfs.Consistent := by
  unfold ofSnapshot at accepted
  cases folded : snapshot.toList.foldlM load Vfs.empty with
  | error breach => simp [folded, bind, Except.bind] at accepted
  | ok built =>
    simp only [folded, bind, Except.bind] at accepted
    split at accepted
    · cases accepted
    · next sound =>
      rw [← Except.ok.inj accepted]
      exact breach?_eq_none_iff.mp sound

theorem Origin.consistent {vfs : Vfs} (origin : Origin vfs) : vfs.Consistent := by
  cases origin with
  | empty => exact empty_consistent
  | loaded accepted => exact consistent_of_ofSnapshot accepted

end Vfs

namespace FileRequest

/-- The files after a sequence of requests, each carried out on what the one before left. -/
def performAll (vfs : Vfs) (requests : List FileRequest) : Vfs :=
  requests.foldl (fun now request => (request.perform now).2) vfs

section settle
variable {α : Type} {answer : α → FileAnswer} {result : Except Vfs.Fault α × Vfs} {after : Vfs}

theorem settle_eq_error {failure : Failure} (refused : settle answer result = (.error failure, after)) :
    ∃ fault, result = (.error fault, after) := by
  obtain ⟨fault | value, left⟩ := result
  · exact ⟨fault, congrArg _ (Prod.mk.inj refused).2⟩
  · exact nomatch (Prod.mk.inj refused).1

theorem settle_eq_ok {value : FileAnswer} (done : settle answer result = (.ok value, after)) :
    ∃ value, result = (.ok value, after) := by
  obtain ⟨fault | value, left⟩ := result
  · exact nomatch (Prod.mk.inj done).1
  · exact ⟨value, congrArg _ (Prod.mk.inj done).2⟩

end settle

section perform
variable {vfs after : Vfs} {request : FileRequest}

/-- A refused request has changed nothing, apart from an interrupted key installation. -/
theorem refused_unchanged (consistent : vfs.Consistent) {failure : Failure}
    (other : ∀ home name algorithm comment, request ≠ .installKeyPair home name algorithm comment)
    (refused : request.perform vfs = (.error failure, after)) : after = vfs := by
  cases request with
  | installKeyPair home name algorithm comment => exact absurd rfl (other home name algorithm comment)
  | audit =>
    rw [perform] at refused
    split at refused
    · exact (Prod.mk.inj refused).2.symm
    · exact nomatch (Prod.mk.inj refused).1
  | mkdir path =>
    obtain ⟨fault, refused⟩ := settle_eq_error refused
    exact Vfs.mkdir_refused refused
  | ensureDir path =>
    obtain ⟨fault, refused⟩ := settle_eq_error refused
    exact Vfs.ensureDir_refused refused
  | touch path =>
    obtain ⟨fault, refused⟩ := settle_eq_error refused
    exact Vfs.touch_refused refused
  | write path content =>
    obtain ⟨fault, refused⟩ := settle_eq_error refused
    exact Vfs.write_refused refused
  | rename source target =>
    obtain ⟨fault, refused⟩ := settle_eq_error refused
    exact Vfs.rename_refused consistent refused
  | read path =>
    obtain ⟨fault, refused⟩ := settle_eq_error refused
    exact (Prod.mk.inj refused).2.symm
  | children path =>
    obtain ⟨fault, refused⟩ := settle_eq_error refused
    exact (Prod.mk.inj refused).2.symm
  | get path => exact nomatch (Prod.mk.inj refused).1
  | has path => exact nomatch (Prod.mk.inj refused).1
  | isDir path => exact nomatch (Prod.mk.inj refused).1
  | isFile path => exact nomatch (Prod.mk.inj refused).1
  | kind path => exact nomatch (Prod.mk.inj refused).1

theorem done_consistent (consistent : vfs.Consistent) {answer : FileAnswer}
    (done : request.perform vfs = (.ok answer, after)) : after.Consistent := by
  cases request with
  | mkdir path =>
    obtain ⟨_, done⟩ := settle_eq_ok done
    exact (Vfs.mkdir_growth consistent done).consistent (Path.normal_ofText path) consistent
  | ensureDir path =>
    obtain ⟨made, done⟩ := settle_eq_ok done
    exact Vfs.ensureDir_consistent consistent done
  | touch path =>
    obtain ⟨made, done⟩ := settle_eq_ok done
    exact (Vfs.touch_growth consistent done).consistent (Path.normal_ofText path) consistent
  | write path content =>
    obtain ⟨made, done⟩ := settle_eq_ok done
    exact Vfs.write_consistent consistent done
  | rename source target =>
    obtain ⟨_, done⟩ := settle_eq_ok done
    exact Vfs.rename_consistent consistent done
  | installKeyPair home name algorithm comment =>
    have installed := Vfs.install_consistent consistent home name algorithm comment
    obtain ⟨paths, done⟩ := settle_eq_ok done
    rwa [done] at installed
  | audit =>
    rw [perform] at done
    split at done
    · exact nomatch (Prod.mk.inj done).1
    · exact (Prod.mk.inj done).2 ▸ consistent
  | read path =>
    obtain ⟨text, done⟩ := settle_eq_ok done
    exact (Prod.mk.inj done).2 ▸ consistent
  | children path =>
    obtain ⟨names, done⟩ := settle_eq_ok done
    exact (Prod.mk.inj done).2 ▸ consistent
  | get path => exact (Prod.mk.inj done).2 ▸ consistent
  | has path => exact (Prod.mk.inj done).2 ▸ consistent
  | isDir path => exact (Prod.mk.inj done).2 ▸ consistent
  | isFile path => exact (Prod.mk.inj done).2 ▸ consistent
  | kind path => exact (Prod.mk.inj done).2 ▸ consistent

theorem perform_consistent (consistent : vfs.Consistent) (request : FileRequest) :
    (request.perform vfs).2.Consistent := by
  rcases performed : request.perform vfs with ⟨failure | answer, after⟩
  · cases request with
    | installKeyPair home name algorithm comment =>
      have installed := Vfs.install_consistent consistent home name algorithm comment
      obtain ⟨fault, interrupted⟩ := settle_eq_error performed
      rwa [interrupted] at installed
    | _ => exact refused_unchanged consistent (by simp) performed ▸ consistent
  · exact done_consistent consistent performed

end perform

theorem performAll_consistent {vfs : Vfs} (consistent : vfs.Consistent) (requests : List FileRequest) :
    (performAll vfs requests).Consistent := by
  induction requests generalizing vfs with
  | nil => exact consistent
  | cons request rest ih => exact ih (perform_consistent consistent request)

/-- After any requests on an empty or a loaded file system the audit finds nothing: the
path map and the child lists agree. -/
theorem audit_after_requests {start : Vfs} (origin : start.Origin) (requests : List FileRequest) :
    (performAll start requests).breach? = none ∧ (performAll start requests).Consistent := by
  have consistent := performAll_consistent origin.consistent requests
  exact ⟨Vfs.breach?_eq_none_iff.mpr consistent, consistent⟩

theorem audit_after_moving_a_tree :
    (performAll Vfs.empty [.mkdir "/a", .mkdir "/a/b", .mkdir "/a", .rename "//a" "/c/"]).breach? = none ∧
      (performAll Vfs.empty [.mkdir "/a", .mkdir "/a/b", .mkdir "/a", .rename "//a" "/c/"]).Consistent :=
  audit_after_requests .empty _

/-- A move is refused and changes nothing, or it is carried out with the effect of a move.
It is carried out exactly when the source is a node other than the root and the target is
the source itself, or free, not under the source and in an existing directory. -/
theorem rename_outcome {vfs : Vfs} (audited : vfs.breach? = none) (sourceText targetText : String) :
    let source := Path.ofText sourceText
    let target := Path.ofText targetText
    let possible := source ≠ Path.root ∧ source ∈ vfs.nodes ∧
      (target = source ∨ target ∉ vfs.nodes ∧ ¬ source <+: target ∧ vfs.IsDirectory target.parent)
    (¬ possible ∧ ∃ fault,
      perform vfs (.rename sourceText targetText) = (.error (.vfs fault), vfs)) ∨
    (possible ∧ ∃ after, perform vfs (.rename sourceText targetText) = (.ok .nothing, after) ∧
      (target = source → after = vfs) ∧
      (target ≠ source → Vfs.Renamed vfs source target after ∧
        ∀ suffix, suffix = "" ∨ Text.startsWith suffix "/" = true →
          after.get? (target.text ++ suffix) = vfs.get? (source.text ++ suffix))) := by
  intro source target possible
  have consistent := Vfs.breach?_eq_none_iff.mp audited
  have performed : perform vfs (.rename sourceText targetText) =
      settle (fun _ => .nothing) (vfs.rename sourceText targetText) := rfl
  have accepted : (∃ after, vfs.rename sourceText targetText = (.ok (), after)) ↔ possible := by
    rw [Vfs.rename_eq_ok_iff consistent]
    constructor
    · intro movable
      obtain ⟨nonroot, present, same | free⟩ := movable
      · exact ⟨nonroot, present, .inl same.symm⟩
      · exact ⟨nonroot, present, .inr ⟨free.free, free.outside, free.directory⟩⟩
    · intro conditions
      obtain ⟨nonroot, present, same | ⟨free, outside, directory⟩⟩ := conditions
      · exact ⟨nonroot, present, .inl same.symm⟩
      · exact ⟨nonroot, present, .inr ⟨nonroot, present, free, outside, directory⟩⟩
  rw [performed]
  rcases done : vfs.rename sourceText targetText with ⟨fault | ⟨⟩, after⟩
  · obtain rfl := Vfs.rename_refused consistent done
    refine .inl ⟨fun conditions => ?_, fault, rfl⟩
    obtain ⟨moved, possible⟩ := accepted.mpr conditions
    cases done.symm.trans possible
  · refine .inr ⟨accepted.mp ⟨after, done⟩, after, rfl, ?_⟩
    rcases Vfs.renamed_of_rename consistent done with ⟨same, unchanged⟩ | ⟨movable, effect⟩
    · exact ⟨fun _ => unchanged, fun differ => absurd same.symm differ⟩
    · refine ⟨fun same => ?_, fun _ => ⟨effect, fun suffix continued => ?_⟩⟩
      · have free : target ∉ vfs.nodes := movable.free
        rw [same] at free
        exact absurd movable.present free
      · rw [Vfs.get?, Vfs.get?, Path.ofText_text_append (Path.normal_ofText targetText) continued,
          Path.ofText_text_append (Path.normal_ofText sourceText) continued]
        exact effect.moved (Path.ofText suffix)

theorem rename_between_directories :
    let vfs := performAll Vfs.empty [.mkdir "/a", .mkdir "/a/x", .mkdir "/ab"]
    vfs.breach? = none ∧ ∃ after, perform vfs (.rename "/a//x/" "/ab/y") = (.ok .nothing, after) ∧
      Vfs.Renamed vfs ["a", "x"] ["ab", "y"] after := by
  intro vfs
  have audited : vfs.breach? = none := by decide +kernel
  refine ⟨audited, ?_⟩
  rcases rename_outcome audited "/a//x/" "/ab/y" with ⟨impossible, _⟩ | ⟨_, after, done, _, moved⟩
  · have directory : vfs.IsDirectory ["ab"] := Vfs.isDir_iff.mp (by decide +kernel : vfs.isDir "/ab" = true)
    exact absurd ⟨by decide, by decide +kernel, .inr ⟨by decide +kernel, by decide, directory⟩⟩ impossible
  · exact ⟨after, done, (moved (by decide)).1⟩

end FileRequest
end LessonShell

import LessonShell.Proofs.KeyPair
import LessonShell.Proofs.Vfs.Requests
import LessonShell.Proofs.Vfs.Writing

/-! The installation of a key pair, step by step. It stops at the first of its three changes that is
refused and leaves what it has done by then, so a second installation stops at the same step and
changes nothing. For a proper name it is refused exactly if something is in the way, and only a
directory in the place of the public file can leave half a pair. -/
namespace LessonShell

theorem Path.ofText_append_segment_ne (text : String) {ending : String} (segment : IsSegment ending) :
    ofText (text ++ ending) ≠ ofText text := by
  have longer {last : String} (unslashed : '/' ∉ last.toList) : ofText (last ++ ending) ≠ ofText last := by
    have still : '/' ∉ (last ++ ending).toList := by
      rw [String.toList_append, List.mem_append]
      exact fun slash => slash.elim unslashed segment.2
    have filled : last ++ ending ≠ "" := by simp [segment.1]
    rw [ofText_unslashed still, if_neg filled, ofText_unslashed unslashed]
    split
    · exact List.cons_ne_nil _ _
    · simp [segment.1]
  by_cases slash : '/' ∈ text.toList
  · obtain ⟨before, after, rfl, last⟩ := PathText.exists_last_slash slash
    rw [String.append_assoc, ofText_append_slash, ofText_append_slash]
    exact fun same => longer last (List.append_cancel_left same)
  · exact longer slash

namespace KeyPair

def privatePath (home name : String) : String := PathText.join (directory home) name

def publicPath (home name : String) : String := privatePath home name ++ ".pub"

/-- How an installation ends: at the first step that is refused, or after the third. -/
inductive Ends (vfs : Vfs) (home name algorithm comment : String) :
    Except Vfs.Fault (String × String) → Vfs → Prop
  | unprepared {fault} (refused : vfs.ensureDir (directory home) = (.error fault, vfs)) :
    Ends vfs home name algorithm comment (.error fault) vfs
  | unwritten {prepared made fault} (ensured : vfs.ensureDir (directory home) = (.ok made, prepared))
    (refused : prepared.write (privatePath home name) privateText = (.error fault, prepared)) :
    Ends vfs home name algorithm comment (.error fault) prepared
  | halved {prepared made half new fault} (ensured : vfs.ensureDir (directory home) = (.ok made, prepared))
    (written : prepared.write (privatePath home name) privateText = (.ok new, half))
    (refused : half.write (publicPath home name) (publicText algorithm comment) = (.error fault, half)) :
    Ends vfs home name algorithm comment (.error fault) half
  | finished {prepared made half new whole other}
    (ensured : vfs.ensureDir (directory home) = (.ok made, prepared))
    (written : prepared.write (privatePath home name) privateText = (.ok new, half))
    (completed : half.write (publicPath home name) (publicText algorithm comment) = (.ok other, whole)) :
    Ends vfs home name algorithm comment (.ok (privatePath home name, publicPath home name)) whole

section steps
variable {vfs after : Vfs} {home name algorithm comment : String}
  {result : Except Vfs.Fault (String × String)}

theorem install_ends (vfs : Vfs) (home name algorithm comment : String) :
    Ends vfs home name algorithm comment (install vfs home name algorithm comment).1
      (install vfs home name algorithm comment).2 := by
  unfold install
  dsimp only
  split
  · next refused =>
    obtain rfl := Vfs.ensureDir_refused refused
    exact .unprepared refused
  · next ensured =>
    split
    · next refused =>
      obtain rfl := Vfs.write_refused refused
      exact .unwritten ensured refused
    · next written =>
      split
      · next refused =>
        obtain rfl := Vfs.write_refused refused
        exact .halved ensured written refused
      · next completed => exact .finished ensured written completed

theorem install_eq_iff : install vfs home name algorithm comment = (result, after) ↔
    Ends vfs home name algorithm comment result after := by
  constructor
  · intro done
    have ends := install_ends vfs home name algorithm comment
    rwa [done] at ends
  · intro ends
    cases ends with
    | unprepared refused => simp only [install, refused]
    | unwritten ensured refused =>
      rw [privatePath] at refused
      simp only [install, ensured, refused]
    | halved ensured written refused =>
      rw [privatePath] at written
      rw [publicPath, privatePath] at refused
      simp only [install, ensured, written, refused]
    | finished ensured written completed =>
      rw [privatePath] at written
      rw [publicPath, privatePath] at completed
      simp only [install, ensured, written, completed]
      rfl

theorem Ends.again (ends : Ends vfs home name algorithm comment result after) (consistent : vfs.Consistent) :
    Ends after home name algorithm comment result after := by
  cases ends with
  | unprepared refused => exact .unprepared refused
  | unwritten ensured refused =>
    have made := Vfs.ensureDir_isDirectory consistent ensured
    exact .unwritten (Vfs.ensureDir_of_isDirectory made) refused
  | halved ensured written refused =>
    have ready := Vfs.ensureDir_consistent consistent ensured
    have made := Vfs.ensureDir_isDirectory consistent ensured
    have kept := (Vfs.write_growth ready written).isDirectory made
    exact .halved (Vfs.ensureDir_of_isDirectory kept) (Vfs.write_of_file (Vfs.write_lookup written)) refused
  | finished ensured written completed =>
    have ready := Vfs.ensureDir_consistent consistent ensured
    have made := Vfs.ensureDir_isDirectory consistent ensured
    have second := Vfs.write_growth ready written
    have third := Vfs.write_growth (Vfs.write_consistent ready written) completed
    have kept := third.isDirectory (second.isDirectory made)
    -- The second file is another one, whatever the name, so the first still holds its text.
    obtain ⟨now, still, same⟩ := third.retained.files _ _ (Vfs.write_lookup written)
    have apart : Path.ofText (privatePath home name) ∉ [Path.ofText (publicPath home name)] := by
      rw [List.mem_singleton]
      exact Ne.symm (Path.ofText_append_segment_ne _ (by decide))
    obtain rfl := same apart
    exact .finished (Vfs.ensureDir_of_isDirectory kept) (Vfs.write_of_file still)
      (Vfs.write_of_file (Vfs.write_lookup completed))

/-- A second installation with the same arguments has the same result and changes nothing, whether
the first one succeeded or stopped half-way; no directory lists a name twice. -/
theorem install_twice (audited : vfs.breach? = none) (home name algorithm comment : String) :
    let first := install vfs home name algorithm comment
    install first.2 home name algorithm comment = first ∧
      ∀ text names, first.2.children text = .ok names → names.Nodup := by
  intro first
  have consistent := Vfs.breach?_eq_none_iff.mp audited
  refine ⟨install_eq_iff.mpr ((install_ends vfs home name algorithm comment).again consistent), ?_⟩
  intro text names listing
  have whole : first.2.Consistent := Vfs.install_consistent consistent home name algorithm comment
  exact whole.distinct (Vfs.children_eq_ok_iff.mp listing)

theorem install_twice_half_way :
    let vfs := FileRequest.performAll Vfs.empty [.mkdir "/home"]
    let first := install vfs "/home" "key/" "rsa" "a@b"
    vfs.breach? = none ∧ first.1.toOption = none ∧ first.2.isFile "/home/.ssh/key" = true ∧
      install first.2 "/home" "key/" "rsa" "a@b" = first := by
  intro vfs first
  have audited : vfs.breach? = none := by decide +kernel
  refine ⟨audited, ?_, ?_, (install_twice audited "/home" "key/" "rsa" "a@b").1⟩
  · decide +kernel
  · decide +kernel

end steps

/-- The home is a directory, only a directory may be in the place of `.ssh`, and none in that of a file. -/
structure Installable (vfs : Vfs) (home name : String) : Prop where
  above : vfs.isDir home = true
  place : vfs.has (directory home) = false ∨ vfs.isDir (directory home) = true
  secret : vfs.isDir (privatePath home name) = false
  shared : vfs.isDir (publicPath home name) = false

/-- The paths at which an installation may add a node. -/
def places (home name : String) : List Path :=
  [Path.ofText (directory home), Path.ofText (privatePath home name), Path.ofText (publicPath home name)]

/-- What an installation leaves: both files, each new node at the end of the list above it, and
all else as it was. -/
structure Installed (before : Vfs) (home name content : String) (after : Vfs) : Prop where
  secret : after.read (privatePath home name) = .ok privateText
  shared : after.read (publicPath home name) = .ok content
  nodes : ∀ path, path ∈ after.nodes ↔ path ∈ before.nodes ∨ path ∈ places home name
  above : ∃ names, before.children home = .ok names ∧
    after.children home = .ok (names ++ before.missing [Path.ofText (directory home)])
  listing : ∃ names, before.nodes[Path.ofText (directory home)]?.getD .emptyDir = .dir names ∧
    after.children (directory home) = .ok (names ++
      before.missing [Path.ofText (privatePath home name), Path.ofText (publicPath home name)])
  others : ∀ path, path ≠ Path.ofText home → path ∉ places home name →
    after.nodes[path]? = before.nodes[path]?

section proper
variable {vfs prepared half after : Vfs} {home name algorithm comment : String} {made : Bool}

theorem ofText_directory (home : String) : Path.ofText (directory home) = (Path.ofText home).child ".ssh" :=
  PathText.ofText_join_segment home (by decide)

theorem ofText_privatePath (home : String) (segment : IsSegment name) :
    Path.ofText (privatePath home name) = (Path.ofText (directory home)).child name :=
  PathText.ofText_join_segment _ segment

theorem ofText_publicPath (home : String) (segment : IsSegment name) :
    Path.ofText (publicPath home name) = (Path.ofText (directory home)).child (name ++ ".pub") := by
  rw [← ofText_privatePath home (isSegment_public segment)]
  exact congrArg Path.ofText (PathText.join_append _ _ _)

theorem parent_directory (home : String) : (Path.ofText (directory home)).parent = Path.ofText home := by
  rw [ofText_directory, Path.parent_child]

theorem parent_privatePath (home : String) (segment : IsSegment name) :
    (Path.ofText (privatePath home name)).parent = Path.ofText (directory home) := by
  rw [ofText_privatePath home segment, Path.parent_child]

theorem parent_publicPath (home : String) (segment : IsSegment name) :
    (Path.ofText (publicPath home name)).parent = Path.ofText (directory home) := by
  rw [ofText_publicPath home segment, Path.parent_child]

/-- The home and the places of an installation are four different paths. -/
structure Apart (home name : String) : Prop where
  placeHome : Path.ofText (directory home) ≠ Path.ofText home
  secretHome : Path.ofText (privatePath home name) ≠ Path.ofText home
  sharedHome : Path.ofText (publicPath home name) ≠ Path.ofText home
  secretPlace : Path.ofText (privatePath home name) ≠ Path.ofText (directory home)
  sharedPlace : Path.ofText (publicPath home name) ≠ Path.ofText (directory home)
  sharedSecret : Path.ofText (publicPath home name) ≠ Path.ofText (privatePath home name)

theorem apart (home : String) (segment : IsSegment name) : Apart home name := by
  have place := congrArg List.length (ofText_directory home)
  have secret := congrArg List.length (ofText_privatePath home segment)
  have shared := congrArg List.length (ofText_publicPath home segment)
  rw [Path.length_child] at place secret shared
  have differ {first second : Path} (longer : second.length < first.length) : first ≠ second :=
    fun same => absurd (congrArg List.length same) (Nat.ne_of_gt longer)
  exact ⟨differ (by omega), differ (by omega), differ (by omega), differ (by omega), differ (by omega),
    Path.ofText_append_segment_ne _ (by decide)⟩

/-- Making sure of the directory touches nothing at the places of the two files. -/
theorem ensured_lookup (consistent : vfs.Consistent) (segment : IsSegment name)
    (ensured : vfs.ensureDir (directory home) = (.ok made, prepared)) :
    prepared.nodes[Path.ofText (privatePath home name)]? = vfs.nodes[Path.ofText (privatePath home name)]? ∧
      prepared.nodes[Path.ofText (publicPath home name)]? = vfs.nodes[Path.ofText (publicPath home name)]? := by
  have apart := apart home segment
  obtain ⟨names, _, put⟩ := Vfs.ensureDir_put consistent ensured
  have elsewhere := put.elsewhere
  rw [parent_directory] at elsewhere
  exact ⟨elsewhere _ apart.secretPlace apart.secretHome, elsewhere _ apart.sharedPlace apart.sharedHome⟩

/-- Where something lies in the directory already, making sure of it changes nothing. -/
theorem ensured_eq (consistent : vfs.Consistent) {name : String}
    (member : (Path.ofText (directory home)).child name ∈ vfs.nodes)
    (ensured : vfs.ensureDir (directory home) = (.ok made, prepared)) : prepared = vfs := by
  have above := consistent.parent_isDirectory member (Path.child_ne_root _ _)
  rw [Path.parent_child] at above
  rw [Vfs.ensureDir_of_isDirectory above] at ensured
  cases ensured
  rfl

theorem written_lookup (consistent : prepared.Consistent) (segment : IsSegment name) {new : Bool}
    (written : prepared.write (privatePath home name) privateText = (.ok new, half)) :
    half.nodes[Path.ofText (publicPath home name)]? = prepared.nodes[Path.ofText (publicPath home name)]? := by
  have apart := apart home segment
  refine (Vfs.write_put consistent written).elsewhere _ apart.sharedSecret ?_
  rw [parent_privatePath home segment]
  exact apart.sharedPlace

theorem Installable.ensures (installable : Installable vfs home name) :
    ∃ made prepared, vfs.ensureDir (directory home) = (.ok made, prepared) := by
  refine Vfs.exists_ensureDir_iff.mpr ?_
  rw [parent_directory]
  rcases installable.place with absent | directory
  · refine .inr ⟨fun member => ?_, Vfs.isDir_iff.mp installable.above⟩
    rw [Vfs.has_iff.mpr member] at absent
    cases absent
  · exact .inl (Vfs.isDir_iff.mp directory)

/-- The three changes of an installation that succeeds, one after another. -/
structure Stages (before : Vfs) (home name content : String) (prepared half after : Vfs) : Prop where
  first : ∃ names, before.nodes[Path.ofText (directory home)]?.getD .emptyDir = .dir names ∧
    Vfs.Put before (Path.ofText (directory home)) (.dir names) prepared
  second : Vfs.Put prepared (Path.ofText (privatePath home name)) (.file privateText) half
  third : Vfs.Put half (Path.ofText (publicPath home name)) (.file content) after

theorem Ends.stages {paths : String × String}
    (ends : Ends vfs home name algorithm comment (.ok paths) after) (consistent : vfs.Consistent) :
    ∃ prepared half, Stages vfs home name (publicText algorithm comment) prepared half after := by
  cases ends with
  | finished ensured written completed =>
    have ready := Vfs.ensureDir_consistent consistent ensured
    have halfway := Vfs.write_consistent ready written
    exact ⟨_, _, Vfs.ensureDir_put consistent ensured, Vfs.write_put ready written,
      Vfs.write_put halfway completed⟩

namespace Stages
variable {before : Vfs} {content : String} {path : Path}

theorem early (stages : Stages before home name content prepared half after)
    (place : path ≠ Path.ofText (directory home)) (above : path ≠ Path.ofText home) :
    prepared.nodes[path]? = before.nodes[path]? := by
  obtain ⟨names, _, first⟩ := stages.first
  exact first.elsewhere path place (parent_directory home ▸ above)

theorem middle (stages : Stages before home name content prepared half after) (segment : IsSegment name)
    (secret : path ≠ Path.ofText (privatePath home name)) (place : path ≠ Path.ofText (directory home)) :
    half.nodes[path]? = prepared.nodes[path]? :=
  stages.second.elsewhere path secret (parent_privatePath home segment ▸ place)

theorem late (stages : Stages before home name content prepared half after) (segment : IsSegment name)
    (shared : path ≠ Path.ofText (publicPath home name)) (place : path ≠ Path.ofText (directory home)) :
    after.nodes[path]? = half.nodes[path]? :=
  stages.third.elsewhere path shared (parent_publicPath home segment ▸ place)

theorem others (stages : Stages before home name content prepared half after) (segment : IsSegment name)
    (path : Path) (above : path ≠ Path.ofText home) (elsewhere : path ∉ places home name) :
    after.nodes[path]? = before.nodes[path]? := by
  simp only [places, List.mem_cons, List.not_mem_nil, or_false, not_or] at elsewhere
  obtain ⟨place, secret, shared⟩ := elsewhere
  calc
    after.nodes[path]? = half.nodes[path]? := stages.late segment shared place
    _ = prepared.nodes[path]? := stages.middle segment secret place
    _ = before.nodes[path]? := stages.early place above

theorem mem_iff (stages : Stages before home name content prepared half after) (path : Path) :
    path ∈ after.nodes ↔ path ∈ before.nodes ∨ path ∈ places home name := by
  obtain ⟨names, _, first⟩ := stages.first
  rw [stages.third.mem_iff, stages.second.mem_iff, first.mem_iff, places, List.mem_cons, List.mem_cons,
    List.mem_singleton]
  constructor
  · rintro (shared | secret | place | old)
    · exact .inr (.inr (.inr shared))
    · exact .inr (.inr (.inl secret))
    · exact .inr (.inl place)
    · exact .inl old
  · rintro (old | place | secret | shared)
    · exact .inr (.inr (.inr old))
    · exact .inr (.inr (.inl place))
    · exact .inr (.inl secret)
    · exact .inl shared

theorem above (stages : Stages before home name content prepared half after) (segment : IsSegment name) :
    ∃ names, before.children home = .ok names ∧
      after.children home = .ok (names ++ before.missing [Path.ofText (directory home)]) := by
  have apart := apart home segment
  obtain ⟨_, _, first⟩ := stages.first
  obtain ⟨names, listed, grown⟩ := first.above
  rw [parent_directory] at listed grown
  rw [← stages.middle segment apart.secretHome.symm apart.placeHome.symm,
    ← stages.late segment apart.sharedHome.symm apart.placeHome.symm] at grown
  exact ⟨names, Vfs.children_eq_ok_iff.mpr listed, Vfs.children_eq_ok_iff.mpr grown⟩

theorem listing (stages : Stages before home name content prepared half after) (segment : IsSegment name) :
    ∃ names, before.nodes[Path.ofText (directory home)]?.getD .emptyDir = .dir names ∧
      after.children (directory home) = .ok (names ++
        before.missing [Path.ofText (privatePath home name), Path.ofText (publicPath home name)]) := by
  have apart := apart home segment
  obtain ⟨names, given, first⟩ := stages.first
  -- Each file ends the list of the directory, if it is new there.
  obtain ⟨_, found, grown⟩ := stages.second.above
  rw [parent_privatePath home segment, first.here] at found
  obtain rfl := Node.dir.inj (Option.some.inj found)
  rw [parent_privatePath home segment, first.missing_eq (by simpa using apart.secretPlace.symm)] at grown
  obtain ⟨_, found, ended⟩ := stages.third.above
  rw [parent_publicPath home segment, grown] at found
  obtain rfl := Node.dir.inj (Option.some.inj found)
  rw [parent_publicPath home segment, stages.second.missing_eq (by simpa using apart.sharedSecret.symm),
    first.missing_eq (by simpa using apart.sharedPlace.symm), List.append_assoc, ← Vfs.missing_cons] at ended
  exact ⟨names, given, Vfs.children_eq_ok_iff.mpr ended⟩

end Stages

namespace Ends

theorem installable {paths : String × String} (ends : Ends vfs home name algorithm comment (.ok paths) after)
    (consistent : vfs.Consistent) (segment : IsSegment name) : Installable vfs home name := by
  cases ends with
  | finished ensured written completed =>
    have ready := Vfs.ensureDir_consistent consistent ensured
    have halfway := Vfs.write_consistent ready written
    obtain ⟨noSecret, noShared⟩ := ensured_lookup consistent segment ensured
    obtain ⟨secret, _⟩ := (Vfs.exists_write_iff ready).mp ⟨_, _, written⟩
    obtain ⟨shared, _⟩ := (Vfs.exists_write_iff halfway).mp ⟨_, _, completed⟩
    rw [Vfs.isDirectory_congr noSecret, ← Vfs.isDir_iff] at secret
    rw [Vfs.isDirectory_congr ((written_lookup ready segment written).trans noShared), ← Vfs.isDir_iff] at shared
    have place := Vfs.exists_ensureDir_iff.mp ⟨_, _, ensured⟩
    rw [parent_directory] at place
    refine ⟨?_, ?_, Bool.eq_false_iff.mpr secret, Bool.eq_false_iff.mpr shared⟩
    · rcases place with directory | ⟨_, above⟩
      · have above := consistent.parent_isDirectory directory.mem (ofText_directory home ▸ Path.child_ne_root _ _)
        exact Vfs.isDir_iff.mpr (parent_directory home ▸ above)
      · exact Vfs.isDir_iff.mpr above
    · rcases place with directory | ⟨absent, _⟩
      · exact .inr (Vfs.isDir_iff.mpr directory)
      · exact .inl (Bool.eq_false_iff.mpr fun present => absent (Vfs.has_iff.mp present))

theorem installed {paths : String × String} (ends : Ends vfs home name algorithm comment (.ok paths) after)
    (consistent : vfs.Consistent) (segment : IsSegment name) :
    Installed vfs home name (publicText algorithm comment) after := by
  obtain ⟨prepared, half, stages⟩ := ends.stages consistent
  have apart := apart home segment
  have secret := (stages.late segment apart.sharedSecret.symm apart.secretPlace).trans stages.second.here
  exact ⟨Vfs.read_eq_ok_iff.mpr secret, Vfs.read_eq_ok_iff.mpr stages.third.here, stages.mem_iff,
    stages.above segment, stages.listing segment, stages.others segment⟩

/-- A refused installation has written the private file exactly if nothing but a directory in the
place of the public one was in the way; otherwise it has changed nothing. -/
theorem of_error {fault : Vfs.Fault} (ends : Ends vfs home name algorithm comment (.error fault) after)
    (consistent : vfs.Consistent) (segment : IsSegment name) :
    ¬ Installable vfs home name ∧
      if vfs.isDir (publicPath home name) = true ∧ vfs.isDir (privatePath home name) = false then
        ∃ new, vfs.write (privatePath home name) privateText = (.ok new, after)
      else after = vfs := by
  cases ends with
  | unprepared refused =>
    have unready : ¬ ∃ made prepared, vfs.ensureDir (directory home) = (.ok made, prepared) := by
      rintro ⟨made, prepared, ensured⟩
      cases refused.symm.trans ensured
    refine ⟨fun installable => unready installable.ensures, (if_neg ?_).mpr rfl⟩
    rintro ⟨shared, _⟩
    have member := (Vfs.isDir_iff.mp shared).mem
    have above := consistent.parent_isDirectory member (ofText_publicPath home segment ▸ Path.child_ne_root _ _)
    rw [parent_publicPath home segment] at above
    exact unready ⟨_, _, Vfs.ensureDir_of_isDirectory above⟩
  | unwritten ensured refused =>
    have ready := Vfs.ensureDir_consistent consistent ensured
    have made := Vfs.ensureDir_isDirectory consistent ensured
    have blocked := Vfs.isDirectory_of_write_error ready (parent_privatePath home segment ▸ made) refused
    rw [Vfs.isDirectory_congr (ensured_lookup consistent segment ensured).1] at blocked
    have secret := Vfs.isDir_iff.mpr blocked
    refine ⟨fun installable => ?_, (if_neg ?_).mpr ?_⟩
    · exact Bool.false_ne_true (installable.secret.symm.trans secret)
    · exact fun both => Bool.false_ne_true (both.2.symm.trans secret)
    · exact ensured_eq consistent (ofText_privatePath home segment ▸ blocked.mem) ensured
  | halved ensured written refused =>
    have ready := Vfs.ensureDir_consistent consistent ensured
    have second := Vfs.write_growth ready written
    have made := second.isDirectory (Vfs.ensureDir_isDirectory consistent ensured)
    have blocked := Vfs.isDirectory_of_write_error (Vfs.write_consistent ready written)
      (parent_publicPath home segment ▸ made) refused
    rw [Vfs.isDirectory_congr ((written_lookup ready segment written).trans
      (ensured_lookup consistent segment ensured).2)] at blocked
    have shared := Vfs.isDir_iff.mpr blocked
    obtain rfl := ensured_eq consistent (ofText_publicPath home segment ▸ blocked.mem) ensured
    obtain ⟨free, _⟩ := (Vfs.exists_write_iff ready).mp ⟨_, _, written⟩
    rw [← Vfs.isDir_iff, Bool.not_eq_true] at free
    refine ⟨fun installable => ?_, (if_pos ⟨shared, free⟩).mpr ⟨_, written⟩⟩
    exact Bool.false_ne_true (installable.shared.symm.trans shared)

end Ends

/-- The private file would be written, with no public one beside it. -/
def Halves (vfs : Vfs) (home name : String) : Prop :=
  vfs.isDir (publicPath home name) = true ∧ vfs.isDir (privatePath home name) = false ∧
    vfs.read (privatePath home name) ≠ .ok privateText

theorem Ends.unchanged_iff {fault : Vfs.Fault}
    (ends : Ends vfs home name algorithm comment (.error fault) after) (consistent : vfs.Consistent)
    (segment : IsSegment name) : after = vfs ↔ ¬ Halves vfs home name := by
  obtain ⟨_, change⟩ := ends.of_error consistent segment
  split at change
  · next half =>
    obtain ⟨new, written⟩ := change
    have now := Vfs.read_eq_ok_iff.mpr (Vfs.write_lookup written)
    constructor
    · rintro rfl ⟨_, _, unread⟩
      exact unread now
    · intro whole
      have already : vfs.read (privatePath home name) = .ok privateText := by
        by_contra unread
        exact whole ⟨half.1, half.2, unread⟩
      rw [Vfs.write_of_file (Vfs.read_eq_ok_iff.mp already)] at written
      cases written
      rfl
  · next other => exact iff_of_true change fun half => other ⟨half.1, half.2.1⟩

/-- A file in the place of the private one would be written over, with no public one beside it. -/
def Spoils (vfs : Vfs) (home name : String) : Prop :=
  vfs.isDir (publicPath home name) = true ∧
    ∃ content, vfs.read (privatePath home name) = .ok content ∧ content ≠ privateText

theorem Spoils.halves (spoils : Spoils vfs home name) : Halves vfs home name := by
  obtain ⟨shared, content, held, other⟩ := spoils
  refine ⟨shared, Bool.eq_false_iff.mpr fun directory => ?_, fun written => ?_⟩
  · obtain ⟨names, listed⟩ := Vfs.isDir_iff.mp directory
    cases listed.symm.trans (Vfs.read_eq_ok_iff.mp held)
  · exact other (Except.ok.inj (held.symm.trans written))

theorem Ends.retained_iff {fault : Vfs.Fault}
    (ends : Ends vfs home name algorithm comment (.error fault) after) (consistent : vfs.Consistent)
    (segment : IsSegment name) : vfs.Retained [] after ↔ ¬ Spoils vfs home name := by
  obtain ⟨_, change⟩ := ends.of_error consistent segment
  split at change
  · next half =>
    obtain ⟨new, written⟩ := change
    rw [Vfs.write_retained_iff consistent written]
    constructor
    · rintro same ⟨_, content, held, other⟩
      exact other (same content held)
    · intro whole content held
      by_contra other
      exact whole ⟨half.1, content, held, other⟩
  · next other =>
    have kept : vfs.Retained [] after := change ▸ .refl vfs
    exact iff_of_true kept fun spoils => other ⟨spoils.1, spoils.halves.2.1⟩

/-- What a refused installation spoils is the private file alone. -/
theorem Ends.spoiled {fault : Vfs.Fault}
    (ends : Ends vfs home name algorithm comment (.error fault) after) (consistent : vfs.Consistent)
    (segment : IsSegment name) (spoils : Spoils vfs home name) :
    vfs.Retained [Path.ofText (privatePath home name)] after ∧
      after.read (privatePath home name) = .ok privateText := by
  have halves := spoils.halves
  obtain ⟨new, written⟩ := (if_pos ⟨halves.1, halves.2.1⟩).mp (ends.of_error consistent segment).2
  exact ⟨(Vfs.write_growth consistent written).retained, Vfs.read_eq_ok_iff.mpr (Vfs.write_lookup written)⟩

/-- A refused installation never makes the directory. -/
theorem Ends.has_directory {fault : Vfs.Fault}
    (ends : Ends vfs home name algorithm comment (.error fault) after) (consistent : vfs.Consistent)
    (segment : IsSegment name) : after.has (directory home) = vfs.has (directory home) := by
  obtain ⟨_, change⟩ := ends.of_error consistent segment
  split at change
  · obtain ⟨new, written⟩ := change
    rw [Bool.eq_iff_iff, Vfs.has_iff, Vfs.has_iff, (Vfs.write_put consistent written).mem_iff]
    simp only [(apart home segment).secretPlace.symm, false_or]
  · rw [change]

end proper
end KeyPair
end LessonShell

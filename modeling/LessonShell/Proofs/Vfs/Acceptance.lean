import LessonShell.Proofs.Spelling
import LessonShell.Proofs.Vfs.Audit
import LessonShell.Shell.Failure
import Mathlib.Data.String.Basic

/-! Which snapshots are accepted. Spelled keys in normal form come in an order that has every
directory before what it holds, so the snapshot is loaded and audited entry by entry. -/
namespace LessonShell.Vfs

/-- The entries of a snapshot at their paths, in the order in which they are loaded. -/
def placed (snapshot : Snapshot) : List (Path × Node) := snapshot.toList.map located

/-- A snapshot that contradicts itself nowhere: the root is no file and nothing lies below one,
and directories list segments that an entry stands at or below. Only the root's list may
name something twice. -/
structure Acceptable (snapshot : Snapshot) : Prop where
  root : ∀ content, snapshot["/"]? ≠ some (.file content)
  leaves : ∀ {file key : String} {content : String}, snapshot[file]? = some (.file content) →
    key ∈ snapshot → Path.ofText file <+: Path.ofText key → key = file
  segments : ∀ {dir : String} {listed : List String}, snapshot[dir]? = some (.dir listed) →
    ∀ name ∈ listed, IsSegment name
  present : ∀ {dir : String} {listed : List String}, snapshot[dir]? = some (.dir listed) →
    ∀ name ∈ listed, ∃ key ∈ snapshot, Path.ofText (PathText.join dir name) <+: Path.ofText key
  distinct : ∀ {dir : String} {listed : List String}, snapshot[dir]? = some (.dir listed) → dir ≠ "/" →
    listed.Nodup

section snapshot
variable {snapshot : Snapshot}

theorem mem_snapshot_iff {key : String} : key ∈ snapshot ↔ ∃ node, snapshot[key]? = some node := by
  rw [Std.ExtTreeMap.mem_iff_isSome_getElem?, Option.isSome_iff_exists]

theorem mem_placed_iff {path : Path} {node : Node} : (path, node) ∈ placed snapshot ↔
    ∃ key, snapshot[key]? = some node ∧ Path.ofText key = path := by
  simp only [placed, List.mem_map, located, Prod.mk.injEq, Prod.exists]
  constructor
  · rintro ⟨key, other, member, spelled, rfl⟩
    exact ⟨key, Std.ExtTreeMap.mem_toList_iff_getElem?_eq_some.mp member, spelled⟩
  · rintro ⟨key, found, spelled⟩
    exact ⟨key, node, Std.ExtTreeMap.mem_toList_iff_getElem?_eq_some.mpr found, spelled, rfl⟩

theorem mem_placed {key : String} {node : Node} (found : snapshot[key]? = some node) :
    (Path.ofText key, node) ∈ placed snapshot :=
  mem_placed_iff.mpr ⟨key, found, rfl⟩

theorem exists_placed_iff {top : Path} : (∃ entry ∈ placed snapshot, top <+: entry.1) ↔
    ∃ key ∈ snapshot, top <+: Path.ofText key := by
  constructor
  · rintro ⟨⟨path, node⟩, member, within⟩
    obtain ⟨key, found, rfl⟩ := mem_placed_iff.mp member
    exact ⟨key, mem_snapshot_iff.mpr ⟨node, found⟩, within⟩
  · rintro ⟨key, member, within⟩
    obtain ⟨node, found⟩ := mem_snapshot_iff.mp member
    exact ⟨(Path.ofText key, node), mem_placed found, within⟩

theorem normal_placed {entry : Path × Node} (member : entry ∈ placed snapshot) : entry.1.Normal := by
  obtain ⟨key, _, spelled⟩ := mem_placed_iff.mp (show (entry.1, entry.2) ∈ placed snapshot from member)
  exact spelled ▸ Path.normal_ofText key

theorem ofSnapshot_of_distinct (distinct : Distinct (placed snapshot)) :
    (Coherent (placed snapshot) ∧ Passes (placed snapshot) →
      ∃ vfs, ofSnapshot snapshot = .ok vfs ∧ Loaded (placed snapshot) vfs) ∧
    (¬ (Coherent (placed snapshot) ∧ Passes (placed snapshot)) →
      ∃ breach, ofSnapshot snapshot = .error breach) := by
  by_cases coherent : Coherent (placed snapshot)
  · obtain ⟨vfs, loaded, built⟩ := (load_outcome distinct).1 coherent
    have audit : vfs.breach? = none ↔ Passes (placed snapshot) := by
      rw [breach?_eq_none_iff]
      constructor
      · exact passes_of_consistent built distinct
      · exact consistent_of_passes built coherent fun _ => normal_placed
    cases found : vfs.breach? with
    | none =>
      have sound : ofSnapshot snapshot = .ok vfs := by
        simp [ofSnapshot, loaded, found, bind, Except.bind]
      exact ⟨fun _ => ⟨vfs, sound, built⟩, fun conflict => absurd ⟨coherent, audit.mp found⟩ conflict⟩
    | some breach =>
      have refused : ofSnapshot snapshot = .error breach := by
        simp [ofSnapshot, loaded, found, bind, Except.bind]
      refine ⟨fun both => ?_, fun _ => ⟨breach, refused⟩⟩
      rw [audit.mpr both.2] at found
      exact nomatch found
  · obtain ⟨breach, failed⟩ := (load_outcome distinct).2 coherent
    have refused : ofSnapshot snapshot = .error breach := by
      rw [ofSnapshot, failed]
      rfl
    exact ⟨fun both => absurd both.1 coherent, fun _ => ⟨breach, refused⟩⟩

theorem sound_of_ofSnapshot (distinct : Distinct (placed snapshot)) {vfs : Vfs}
    (accepted : ofSnapshot snapshot = .ok vfs) :
    (Coherent (placed snapshot) ∧ Passes (placed snapshot)) ∧ Loaded (placed snapshot) vfs := by
  obtain ⟨sound, refused⟩ := ofSnapshot_of_distinct distinct
  by_cases both : Coherent (placed snapshot) ∧ Passes (placed snapshot)
  · obtain ⟨built, same, loaded⟩ := sound both
    rw [accepted] at same
    exact ⟨both, Except.ok.inj same ▸ loaded⟩
  · obtain ⟨breach, failed⟩ := refused both
    rw [accepted] at failed
    exact nomatch failed

theorem ofSnapshot_cases (ordered : Ordered (placed snapshot)) :
    (Coherent (placed snapshot) ∧ Listed (placed snapshot) →
      ∃ vfs, ofSnapshot snapshot = .ok vfs ∧ Loaded (placed snapshot) vfs) ∧
    (¬ (Coherent (placed snapshot) ∧ Listed (placed snapshot)) →
      ∃ breach, ofSnapshot snapshot = .error breach) := by
  rw [← ordered.passes_iff]
  exact ofSnapshot_of_distinct ordered.distinct

end snapshot

section normal
variable {snapshot : Snapshot} (normal : ∀ key ∈ snapshot, PathText.isNormal key.toList = true)
include normal

theorem text_of_found {key : String} {node : Node} (found : snapshot[key]? = some node) :
    (Path.ofText key).text = key :=
  PathText.text_ofText (normal key (mem_snapshot_iff.mpr ⟨node, found⟩))

theorem root_of_found {key : String} {node : Node} (found : snapshot[key]? = some node)
    (top : Path.ofText key = Path.root) : key = "/" := by
  rw [← text_of_found normal found, top, Path.text_root]

/-- The text of a directory begins every text below it, so its entry comes first. -/
theorem ordered_placed : Ordered (placed snapshot) := by
  rw [placed, Ordered, List.pairwise_map]
  have sorted := Std.ExtTreeMap.ordered_keys_toList (t := snapshot)
  refine sorted.imp_of_mem fun {early late} first second less within => ?_
  have begins : late.1.toList <+: early.1.toList := by
    rw [← text_of_found normal (Std.ExtTreeMap.mem_toList_iff_getElem?_eq_some.mp first),
      ← text_of_found normal (Std.ExtTreeMap.mem_toList_iff_getElem?_eq_some.mp second)]
    exact Path.text_prefix within
  have before : early.1.toList < late.1.toList :=
    String.lt_iff_toList_lt.mp (compareOfLessAndEq_eq_lt.mp less)
  exact absurd before (List.not_lt.mpr begins.le)

theorem Acceptable.coherent (acceptable : Acceptable snapshot) : Coherent (placed snapshot) := by
  constructor
  · intro content member
    obtain ⟨key, found, top⟩ := mem_placed_iff.mp member
    exact acceptable.root content (root_of_found normal found top ▸ found)
  · intro path other content node file member within
    obtain ⟨top, found, rfl⟩ := mem_placed_iff.mp file
    obtain ⟨key, below, rfl⟩ := mem_placed_iff.mp member
    rw [acceptable.leaves found (mem_snapshot_iff.mpr ⟨node, below⟩) within]

omit normal in
theorem Acceptable.listed (acceptable : Acceptable snapshot) : Listed (placed snapshot) := by
  constructor
  · intro path names member
    obtain ⟨dir, found, rfl⟩ := mem_placed_iff.mp member
    exact acceptable.segments found
  · intro path names member name inside
    obtain ⟨dir, found, rfl⟩ := mem_placed_iff.mp member
    rw [exists_placed_iff, ← PathText.ofText_join_segment dir (acceptable.segments found name inside)]
    exact acceptable.present found name inside
  · intro path names member below
    obtain ⟨dir, found, rfl⟩ := mem_placed_iff.mp member
    exact acceptable.distinct found fun top => below (by rw [top, Path.ofText_root])

theorem acceptable_of_listed (coherent : Coherent (placed snapshot)) (listed : Listed (placed snapshot)) :
    Acceptable snapshot := by
  constructor
  · intro content found
    exact coherent.root content (Path.ofText_root ▸ mem_placed found)
  · intro file key content found member within
    obtain ⟨node, below⟩ := mem_snapshot_iff.mp member
    have same := coherent.leaves (mem_placed found) (mem_placed below) within
    rw [← text_of_found normal found, ← text_of_found normal below, same]
  · intro dir names found
    exact listed.segments (mem_placed found)
  · intro dir names found name inside
    rw [← exists_placed_iff,
      PathText.ofText_join_segment dir (listed.segments (mem_placed found) name inside)]
    exact listed.present (mem_placed found) name inside
  · intro dir names found below
    exact listed.distinct (mem_placed found) fun top => below (root_of_found normal found top)

theorem acceptable_iff : Acceptable snapshot ↔ Coherent (placed snapshot) ∧ Listed (placed snapshot) := by
  constructor
  · intro acceptable
    exact ⟨acceptable.coherent normal, acceptable.listed⟩
  · rintro ⟨coherent, listed⟩
    exact acceptable_of_listed normal coherent listed

/-- A snapshot with keys in normal form is loaded exactly when it is acceptable, and refused
with a broken invariant otherwise. Repetitions in the root's list are dropped. -/
theorem ofSnapshot_outcome :
    ((∃ vfs, ofSnapshot snapshot = .ok vfs) ↔ Acceptable snapshot) ∧
    (¬ Acceptable snapshot →
      ∃ breach, ofSnapshot snapshot = .error breach ∧ (Failure.breach breach).kind = .invariant) ∧
    ∀ vfs listed, ofSnapshot snapshot = .ok vfs → snapshot["/"]? = some (.dir listed) →
      ∃ added, vfs.nodes[Path.root]? = some (.dir (listed.eraseDups ++ added)) ∧
        (listed.eraseDups ++ added).Nodup := by
  have ordered : Ordered (placed snapshot) := ordered_placed normal
  obtain ⟨accepted, refused⟩ := ofSnapshot_cases ordered
  rw [← acceptable_iff normal] at accepted refused
  have sound {vfs : Vfs} (loaded : ofSnapshot snapshot = .ok vfs) : Acceptable snapshot := by
    by_contra conflict
    obtain ⟨breach, failed⟩ := refused conflict
    rw [failed] at loaded
    exact nomatch loaded
  refine ⟨⟨fun ⟨vfs, loaded⟩ => sound loaded, fun acceptable => ?_⟩, fun conflict => ?_, ?_⟩
  · obtain ⟨vfs, loaded, _⟩ := accepted acceptable
    exact ⟨vfs, loaded⟩
  · obtain ⟨breach, failed⟩ := refused conflict
    exact ⟨breach, failed, rfl⟩
  · intro vfs listed loaded found
    obtain ⟨built, same, lookup⟩ := accepted (sound loaded)
    obtain rfl : built = vfs := Except.ok.inj (same.symm.trans loaded)
    exact root_listing lookup ordered (Path.ofText_root ▸ mem_placed found)

end normal

/-- A file whose directory lists it twice. -/
def listedTwice (dir name : String) : Snapshot :=
  .ofList [(dir, Node.dir [name, name]), (PathText.join dir name, .file "")]

/-- The root may list a name twice and keeps it once; another directory may not. -/
theorem repetition_only_in_root :
    (∃ vfs names, ofSnapshot (listedTwice "/" "home") = .ok vfs ∧
      vfs.nodes[Path.root]? = some (.dir ("home" :: names)) ∧ "home" ∉ names) ∧
    ¬ Acceptable (listedTwice "/home" "ana") := by
  constructor
  · have keys : ∀ key ∈ (listedTwice "/" "home").keys, PathText.isNormal key.toList = true := by
      decide +kernel
    have root : (listedTwice "/" "home")["/"]? = some (.dir ["home", "home"]) := by decide +kernel
    have loaded : (ofSnapshot (listedTwice "/" "home")).toOption.isSome = true := by decide +kernel
    cases accepted : ofSnapshot (listedTwice "/" "home") with
    | error breach =>
      rw [accepted] at loaded
      exact nomatch loaded
    | ok vfs =>
      obtain ⟨_, _, listing⟩ :=
        ofSnapshot_outcome fun key member => keys key (Std.ExtTreeMap.mem_keys.mpr member)
      obtain ⟨added, found, distinct⟩ := listing vfs _ accepted root
      exact ⟨vfs, added, rfl, found, (List.nodup_cons.mp distinct).1⟩
  · have keys : ∀ key ∈ (listedTwice "/home" "ana").keys, PathText.isNormal key.toList = true := by
      decide +kernel
    have refused : (ofSnapshot (listedTwice "/home" "ana")).toOption.isSome = false := by decide +kernel
    intro acceptable
    obtain ⟨loads, _, _⟩ :=
      ofSnapshot_outcome fun key member => keys key (Std.ExtTreeMap.mem_keys.mpr member)
    obtain ⟨vfs, loaded⟩ := loads.mpr acceptable
    rw [loaded] at refused
    exact nomatch refused

end LessonShell.Vfs

import LessonShell.Proofs.Vfs.Acceptance
import LessonShell.Proofs.Vfs.Requests

/-! The same snapshot under keys in normal form. Entries are loaded in the order of the keys as
they are spelled, so another spelling can change which directories are made in advance and which
name a directory is given first: the order of its children, and whether a list with a
repetition is refused. Nothing else depends on the spelling. -/
namespace LessonShell

namespace Snapshot

/-- The entries under keys in normal form, in the order in which the keys were spelled. -/
def respelled (snapshot : Snapshot) : List (String × Node) :=
  snapshot.toList.map fun (key, node) => (PathText.normalize key, node)

def normalized (snapshot : Snapshot) : Snapshot := .ofList snapshot.respelled

end Snapshot

/-- The same node, but for the order of its children. -/
inductive Node.Reordered : Node → Node → Prop
  | file (content : String) : Reordered (.file content) (.file content)
  | dir {names others : List String} (same : names.Perm others) : Reordered (.dir names) (.dir others)

namespace Vfs

/-- Two snapshots are both refused, or give the same file system. -/
inductive Alike (first second : Snapshot) : Prop
  | loaded {vfs : Vfs} (one : ofSnapshot first = .ok vfs) (other : ofSnapshot second = .ok vfs) :
    Alike first second
  | refused {early late : Breach} (one : ofSnapshot first = .error early)
    (other : ofSnapshot second = .error late) : Alike first second

/-- The same nodes, but for the order in which directories list them. -/
def Reordered (first second : Vfs) : Prop :=
  ∀ path : Path, Option.Rel Node.Reordered first.nodes[path]? second.nodes[path]?

section entries
variable {first second : List (Path × Node)} (same : ∀ entry, entry ∈ first ↔ entry ∈ second)

section
include same

theorem Coherent.congr (coherent : Coherent first) : Coherent second := by
  constructor
  · intro content member
    exact coherent.root content ((same _).mpr member)
  · intro path other content node file member
    exact coherent.leaves ((same _).mpr file) ((same _).mpr member)

theorem Listed.congr (listed : Listed first) : Listed second := by
  constructor
  · intro dir names member
    exact listed.segments ((same _).mpr member)
  · intro dir names member name inside
    obtain ⟨entry, held, within⟩ := listed.present ((same _).mpr member) name inside
    exact ⟨entry, (same _).mp held, within⟩
  · intro dir names member
    exact listed.distinct ((same _).mpr member)

end

section loaded
variable {one other : Vfs} (early : Loaded first one) (late : Loaded second other)
variable (sound : one.Consistent) (whole : other.Consistent)
include early late

section
include same

theorem mem_nodes_congr {path : Path} : path ∈ one.nodes ↔ path ∈ other.nodes := by
  simp only [early.mem_iff, late.mem_iff, same]

theorem mem_listing_congr {path : Path} {names others : List String}
    (here : one.nodes[path]? = some (.dir names)) (there : other.nodes[path]? = some (.dir others))
    (name : String) : name ∈ names ↔ name ∈ others := by
  simp only [mem_listing_iff early here, mem_listing_iff late there, same]

include sound whole

/-- The same entries in another order give the same nodes, with the same names in their lists. -/
theorem reordered_of_loaded (distinct : Distinct second) : Reordered one other := by
  intro path
  cases here : one.nodes[path]? with
  | none =>
    rw [← not_mem_nodes_iff, mem_nodes_congr same early late, not_mem_nodes_iff] at here
    rw [here]
    exact .none
  | some node =>
    cases node with
    | file content =>
      rw [(file_loaded_iff late distinct).mpr ((same _).mp (early.file here))]
      exact .some (.file content)
    | dir names =>
      obtain ⟨held, there⟩ :=
        mem_nodes_iff.mp ((mem_nodes_congr same early late).mp (mem_nodes_iff.mpr ⟨_, here⟩))
      rw [there]
      cases held with
      | dir others =>
        refine .some (.dir ((List.perm_ext_iff_of_nodup ?_ ?_).mpr ?_))
        · exact sound.distinct here
        · exact whole.distinct there
        · exact mem_listing_congr same early late here there
      | file content =>
        obtain ⟨other, file⟩ := early.exists_file ((same _).mpr (late.file there))
        rw [here] at file
        exact nomatch file

end

include sound whole

theorem eq_iff_mentions (reordered : Reordered one other) : one = other ↔ ∀ path, one.IsDirectory path →
    (mentions first path).eraseDups = (mentions second path).eraseDups := by
  constructor
  · rintro rfl path ⟨names, found⟩
    rw [← listing_eq_mentions early found (sound.distinct found),
      ← listing_eq_mentions late found (sound.distinct found)]
  · intro order
    refine ext_getElem? fun path => ?_
    have related : Option.Rel _ _ _ := reordered path
    generalize here : one.nodes[path]? = left at related
    generalize there : other.nodes[path]? = right at related
    cases related with
    | none => rfl
    | some nodes =>
      cases nodes with
      | file content => rfl
      | dir permuted =>
        rw [listing_eq_mentions early here (sound.distinct here), order path ⟨_, here⟩,
          ← listing_eq_mentions late there (whole.distinct there)]

end loaded
end entries

section snapshot
variable {snapshot : Snapshot}

theorem keys_respelled : snapshot.respelled.map Prod.fst = snapshot.keys.map PathText.normalize := by
  rw [Snapshot.respelled, ← Std.ExtTreeMap.map_fst_toList_eq_keys, List.map_map, List.map_map]
  rfl

theorem normal_of_mem_normalized {key : String} (member : key ∈ snapshot.normalized) :
    PathText.isNormal key.toList = true := by
  rw [Snapshot.normalized, Std.ExtTreeMap.mem_ofList, List.contains_iff_mem, Snapshot.respelled] at member
  simp only [List.map_map, List.mem_map] at member
  obtain ⟨entry, _, rfl⟩ := member
  exact PathText.isNormal_normalize entry.1

variable (distinct : (snapshot.keys.map PathText.normalize).Nodup)
include distinct

theorem normalized_lookup {key : String} {node : Node} : snapshot.normalized[key]? = some node ↔
    ∃ raw, snapshot[raw]? = some node ∧ PathText.normalize raw = key := by
  rw [Snapshot.normalized, Table.getElem?_ofList_iff (by rwa [keys_respelled])]
  simp only [Snapshot.respelled, List.mem_map, Prod.mk.injEq, Prod.exists,
    Std.ExtTreeMap.mem_toList_iff_getElem?_eq_some]
  constructor
  · rintro ⟨raw, held, found, spelled, rfl⟩
    exact ⟨raw, found, spelled⟩
  · rintro ⟨raw, found, spelled⟩
    exact ⟨raw, node, found, spelled, rfl⟩

theorem mem_placed_normalized (entry : Path × Node) :
    entry ∈ placed snapshot ↔ entry ∈ placed snapshot.normalized := by
  obtain ⟨path, node⟩ := entry
  simp only [mem_placed_iff, normalized_lookup distinct]
  constructor
  · rintro ⟨raw, found, spelled⟩
    exact ⟨_, ⟨raw, found, rfl⟩, (PathText.ofText_normalize raw).trans spelled⟩
  · rintro ⟨_, ⟨raw, found, rfl⟩, spelled⟩
    exact ⟨raw, found, (PathText.ofText_normalize raw).symm.trans spelled⟩

theorem distinct_placed : Distinct (placed snapshot) := by
  rw [← Std.ExtTreeMap.map_fst_toList_eq_keys, List.map_map, List.Nodup, List.pairwise_map] at distinct
  rw [Distinct, placed, List.map_map, List.Nodup, List.pairwise_map]
  exact distinct.imp fun differs same => differs (PathText.normalize_eq_iff.mpr same)

theorem normalized_refused (conflict : ¬ (Coherent (placed snapshot) ∧ Listed (placed snapshot))) :
    ∃ breach, ofSnapshot snapshot.normalized = .error breach := by
  have same := mem_placed_normalized distinct
  refine (ofSnapshot_cases (ordered_placed fun _ => normal_of_mem_normalized)).2 fun both => conflict ?_
  exact ⟨both.1.congr fun entry => (same entry).symm, both.2.congr fun entry => (same entry).symm⟩

theorem sound_of_normalized {other : Vfs} (accepted : ofSnapshot snapshot.normalized = .ok other) :
    Coherent (placed snapshot) ∧ Listed (placed snapshot) := by
  by_contra conflict
  obtain ⟨breach, failed⟩ := normalized_refused distinct conflict
  rw [accepted] at failed
  exact nomatch failed

theorem normalized_loaded (coherent : Coherent (placed snapshot)) (listed : Listed (placed snapshot)) :
    ∃ vfs other, ofSnapshot snapshot = .ok vfs ∧ ofSnapshot snapshot.normalized = .ok other ∧
      Reordered vfs other ∧ (vfs = other ↔ ∀ path, vfs.IsDirectory path →
        (mentions (placed snapshot) path).eraseDups = (mentions (placed snapshot.normalized) path).eraseDups) := by
  have same := mem_placed_normalized distinct
  have ordered : Ordered (placed snapshot.normalized) := ordered_placed fun _ => normal_of_mem_normalized
  obtain ⟨vfs, one, early⟩ :=
    (ofSnapshot_of_distinct (distinct_placed distinct)).1 ⟨coherent, listed.passes⟩
  obtain ⟨other, two, late⟩ := (ofSnapshot_cases ordered).1 ⟨coherent.congr same, listed.congr same⟩
  have sound := consistent_of_ofSnapshot one
  have whole := consistent_of_ofSnapshot two
  have reordered := reordered_of_loaded same early late sound whole ordered.distinct
  exact ⟨vfs, other, one, two, reordered, eq_iff_mentions early late sound whole reordered⟩

/-- Another spelling of the keys gives the same result exactly if a snapshot that is loaded
lists no name twice below the root, and mentions the names of each directory in the same order
under either spelling. What the normal spelling loads is always loaded, with the same nodes. -/
theorem normalized_alike_iff :
    (Alike snapshot snapshot.normalized ↔ ∀ vfs, ofSnapshot snapshot = .ok vfs →
      (∀ key listed, snapshot[key]? = some (.dir listed) → Path.ofText key ≠ Path.root → listed.Nodup) ∧
      ∀ path, vfs.IsDirectory path →
        (mentions (placed snapshot) path).eraseDups = (mentions (placed snapshot.normalized) path).eraseDups) ∧
    ∀ other, ofSnapshot snapshot.normalized = .ok other →
      ∃ vfs, ofSnapshot snapshot = .ok vfs ∧ Reordered vfs other := by
  refine ⟨⟨fun alike vfs loaded => ?_, fun settled => ?_⟩, fun other accepted => ?_⟩
  · cases alike with
    | refused one other =>
      rw [loaded] at one
      exact nomatch one
    | @loaded both one other =>
      obtain rfl : both = vfs := Except.ok.inj (one.symm.trans loaded)
      obtain ⟨coherent, listed⟩ := sound_of_normalized distinct other
      obtain ⟨raw, normal, first, second, _, same⟩ := normalized_loaded distinct coherent listed
      obtain rfl : raw = both := Except.ok.inj (first.symm.trans one)
      obtain rfl : normal = raw := Except.ok.inj (second.symm.trans other)
      exact ⟨fun key names found => listed.distinct (mem_placed found), same.mp rfl⟩
  · by_cases both : Coherent (placed snapshot) ∧ Listed (placed snapshot)
    · obtain ⟨vfs, other, one, two, _, same⟩ := normalized_loaded distinct both.1 both.2
      obtain rfl := same.mpr (settled vfs one).2
      exact .loaded one two
    · obtain ⟨late, two⟩ := normalized_refused distinct both
      cases one : ofSnapshot snapshot with
      | error early => exact .refused one two
      | ok vfs =>
        -- Only a repetition can be accepted in one spelling and refused in the other.
        obtain ⟨⟨coherent, passes⟩, _⟩ := sound_of_ofSnapshot (distinct_placed distinct) one
        refine absurd ⟨coherent, passes.segments, passes.present, ?_⟩ both
        intro dir names member below
        obtain ⟨key, found, rfl⟩ := mem_placed_iff.mp member
        exact (settled vfs one).1 key names found below
  · obtain ⟨coherent, listed⟩ := sound_of_normalized distinct accepted
    obtain ⟨vfs, normal, one, two, reordered, _⟩ := normalized_loaded distinct coherent listed
    obtain rfl : normal = other := Except.ok.inj (two.symm.trans accepted)
    exact ⟨vfs, one, reordered⟩

end snapshot

/-- A directory above its file, both with slashes to spare. -/
def spacedSite : Snapshot :=
  .ofList [("/srv//www/", Node.dir ["index"]), ("/srv//www//index", .file "hello")]

theorem spacedSite_alike : Alike spacedSite spacedSite.normalized ∧
    ∃ vfs other, ofSnapshot spacedSite = .ok vfs ∧ ofSnapshot spacedSite.normalized = .ok other ∧
      Reordered vfs other := by
  have distinct : (spacedSite.keys.map PathText.normalize).Nodup := by decide +kernel
  have unrepeated : ∀ entry ∈ placed spacedSite, entry.2.names.Nodup := by decide +kernel
  have same : placed spacedSite = placed spacedSite.normalized := by decide +kernel
  have loads : (ofSnapshot spacedSite.normalized).toOption.isSome = true := by decide +kernel
  obtain ⟨alike, loaded⟩ := normalized_alike_iff distinct
  constructor
  · refine alike.mpr fun vfs _ => ⟨fun key listed found _ => ?_, fun path _ => by rw [same]⟩
    exact unrepeated _ (mem_placed found)
  · cases accepted : ofSnapshot spacedSite.normalized with
    | error breach =>
      rw [accepted] at loads
      exact nomatch loads
    | ok other =>
      obtain ⟨vfs, one, reordered⟩ := loaded other accepted
      exact ⟨vfs, other, one, rfl, reordered⟩

/-- The last key is a directory above the others, and lists the second of them. -/
def belatedListing : Snapshot := .ofList [("/a/b", Node.file ""), ("/a/c", .file ""), ("a", .dir ["c"])]

/-- A child that is not listed comes before the one that is, unless the keys are in normal form. -/
theorem belatedListing_not_alike : (belatedListing.keys.map PathText.normalize).Nodup ∧
    ¬ Alike belatedListing belatedListing.normalized := by
  have raw : (ofSnapshot belatedListing).toOption.map (·.nodes[(["a"] : Path)]?) =
      some (some (.dir ["b", "c"])) := by decide +kernel
  have normal : (ofSnapshot belatedListing.normalized).toOption.map (·.nodes[(["a"] : Path)]?) =
      some (some (.dir ["c", "b"])) := by decide +kernel
  refine ⟨by decide +kernel, fun alike => ?_⟩
  cases alike with
  | loaded one other =>
    rw [one, ← other, normal] at raw
    exact nomatch raw
  | refused one other =>
    rw [one] at raw
    exact nomatch raw

end Vfs
end LessonShell

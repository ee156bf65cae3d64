import LessonShell.Proofs.Vfs.Acceptance
import LessonShell.Proofs.Vfs.Requests

/-! What an accepted snapshot becomes. No node is lost and none invented, and a directory lists
the names of its own entry before those of other children, which come in the order of the first
key at or below each of them. -/
namespace LessonShell.Vfs

/-- What a snapshot lists for a directory; nothing if it has no entry for it. -/
def listedIn (snapshot : Snapshot) (path : Path) : List String :=
  (snapshot[path.text]?.map Node.names).getD []

/-- The first key of a snapshot at or below a path. -/
structure FirstKey (snapshot : Snapshot) (path : Path) (key : String) : Prop where
  member : key ∈ snapshot
  within : path <+: Path.ofText key
  least : ∀ other ∈ snapshot, path <+: Path.ofText other → key ≤ other

/-- The tree that a snapshot with keys in normal form describes. -/
structure Depicts (snapshot : Snapshot) (vfs : Vfs) : Prop where
  nodes : ∀ path : Path, path ∈ vfs.nodes ↔
    path = Path.root ∨ ∃ key ∈ snapshot, path <+: Path.ofText key
  files : ∀ {path : Path} {content : String}, vfs.nodes[path]? = some (.file content) ↔
    path.Normal ∧ snapshot[path.text]? = some (.file content)
  lists : ∀ {path : Path} {names : List String}, vfs.nodes[path]? = some (.dir names) →
    ∃ added, names = (listedIn snapshot path).eraseDups ++ added ∧
      (∀ name, name ∈ added ↔ path.child name ∈ vfs.nodes ∧ name ∉ listedIn snapshot path) ∧
      added.Pairwise fun early late => ∃ first second, FirstKey snapshot (path.child early) first ∧
        FirstKey snapshot (path.child late) second ∧ first < second

/-- The map itself, taken for a file system. -/
def verbatim (snapshot : Snapshot) : Vfs := ⟨.ofList (placed snapshot) Path.order⟩

/-- The first of the sources to give one name comes before the first to give the other. -/
def GivenBefore {α : Type} (before : α → α → Prop) (sources : List α) (name? : α → Option String)
    (early late : String) : Prop :=
  ∃ first second, sources.find? (name? · = some early) = some first ∧
    sources.find? (name? · = some late) = some second ∧ before first second

section given
variable {α : Type} {before : α → α → Prop} {sources : List α} {name? : α → Option String}

theorem GivenBefore.append {early late : String} (given : GivenBefore before sources name? early late)
    (rest : List α) : GivenBefore before (sources ++ rest) name? early late := by
  obtain ⟨first, second, here, there, less⟩ := given
  refine ⟨first, second, ?_, ?_, less⟩
  · rw [List.find?_append, here, Option.some_or]
  · rw [List.find?_append, there, Option.some_or]

theorem givenBefore_last {last : α} {early late : String} (earlier : ∀ source ∈ sources, before source last)
    (known : early ∈ sources.filterMap name?) (fresh : late ∉ sources.filterMap name?)
    (named : name? last = some late) : GivenBefore before (sources ++ [last]) name? early late := by
  obtain ⟨source, member, gives⟩ := List.mem_filterMap.mp known
  obtain ⟨first, found⟩ : ∃ first, sources.find? (name? · = some early) = some first := by
    rw [← Option.isSome_iff_exists, List.find?_isSome]
    exact ⟨source, member, by simpa using gives⟩
  have none : sources.find? (name? · = some late) = none := by simpa using fresh
  refine ⟨first, last, ?_, ?_, earlier first (List.mem_of_find?_eq_some found)⟩
  · rw [List.find?_append, found, Option.some_or]
  · simp [List.find?_append, none, named]

/-- Names collected from sources come in the order of the first source of each. -/
theorem pairwise_givenBefore (sorted : sources.Pairwise before) (name? : α → Option String) :
    (sources.filterMap name?).eraseDups.Pairwise (GivenBefore before sources name?) := by
  induction sources using List.reverseRecOn with
  | nil => exact List.Pairwise.nil
  | append_singleton front last ih =>
    obtain ⟨earlier, _, apart⟩ := List.pairwise_append.mp sorted
    -- What was first before stays first; the last source adds one name at most, at the end.
    have old := (ih earlier).imp fun given => given.append [last]
    rw [List.filterMap_append]
    cases named : name? last with
    | none => simpa [named] using old
    | some name =>
      rw [List.filterMap_cons_some named, List.filterMap_nil, eraseDups_concat, listName]
      split
      · exact old
      · next fresh =>
        refine List.pairwise_append.mpr ⟨old, List.pairwise_singleton _ _, fun early listed late added => ?_⟩
        rw [List.mem_singleton.mp added]
        exact givenBefore_last (fun source member => apart source member last List.mem_cons_self)
          (List.mem_eraseDups.mp listed) (fun known => fresh (List.mem_eraseDups.mpr known)) named

end given

section snapshot
variable {snapshot : Snapshot} {path : Path} {vfs : Vfs}

/-- The names under which keys lie in a directory, less those that it lists itself. -/
def unlistedName? (path : Path) (listed : List String) (entry : String × Node) : Option String :=
  (path.toward (Path.ofText entry.1)).filter fun name => !listed.contains name

theorem unlistedName?_eq_some_iff {listed : List String} {entry : String × Node} {name : String} :
    unlistedName? path listed entry = some name ↔
      path.child name <+: Path.ofText entry.1 ∧ name ∉ listed := by
  rw [unlistedName?, Option.filter_eq_some_iff, Path.toward_eq_some_iff]
  simp

theorem removeAll_namesBelow (path : Path) (listed : List String) :
    (namesBelow (placed snapshot) path).removeAll listed =
      snapshot.toList.filterMap (unlistedName? path listed) := by
  rw [namesBelow, placed, List.filterMap_map, List.removeAll, List.filter_filterMap]
  rfl

theorem mem_unlisted_iff {listed : List String} {name : String} :
    name ∈ snapshot.toList.filterMap (unlistedName? path listed) ↔
      (∃ key ∈ snapshot, path.child name <+: Path.ofText key) ∧ name ∉ listed := by
  rw [← removeAll_namesBelow, List.removeAll, List.mem_filter, mem_namesBelow, exists_placed_iff]
  simp

theorem firstKey_of_find? {listed : List String} {name : String} {entry : String × Node}
    (found : snapshot.toList.find? (unlistedName? path listed · = some name) = some entry) :
    FirstKey snapshot (path.child name) entry.1 := by
  obtain ⟨here, front, back, whole, earlier⟩ := List.find?_eq_some_iff_append.mp found
  obtain ⟨within, fresh⟩ := unlistedName?_eq_some_iff.mp (by simpa using here)
  have sorted := Std.ExtTreeMap.ordered_keys_toList (t := snapshot)
  rw [whole] at sorted
  refine ⟨mem_snapshot_iff.mpr ⟨entry.2, ?_⟩, within, fun other member below => ?_⟩
  · rw [← Std.ExtTreeMap.mem_toList_iff_getElem?_eq_some, whole]
    simp
  · obtain ⟨node, held⟩ := mem_snapshot_iff.mp member
    rw [← Std.ExtTreeMap.mem_toList_iff_getElem?_eq_some, whole, List.mem_append, List.mem_cons] at held
    rcases held with sooner | same | later
    · have named : unlistedName? path listed (other, node) = some name :=
        unlistedName?_eq_some_iff.mpr ⟨below, fresh⟩
      simpa [named] using earlier _ sooner
    · rw [← same]
    · have less := (List.pairwise_cons.mp (List.pairwise_append.mp sorted).2.1).1 _ later
      exact (compareOfLessAndEq_eq_lt.mp less).le

end snapshot

section normal
variable {snapshot : Snapshot} {path : Path} {vfs : Vfs}
variable (normal : ∀ key ∈ snapshot, PathText.isNormal key.toList = true)
include normal

theorem mem_placed_iff_found {node : Node} : (path, node) ∈ placed snapshot ↔
    path.Normal ∧ snapshot[path.text]? = some node := by
  rw [mem_placed_iff]
  constructor
  · rintro ⟨key, found, rfl⟩
    exact ⟨Path.normal_ofText key, (text_of_found normal found).symm ▸ found⟩
  · rintro ⟨spelled, found⟩
    exact ⟨path.text, found, Path.ofText_text spelled⟩

theorem mentions_placed (spelled : path.Normal) :
    mentions (placed snapshot) path = listedIn snapshot path ++ namesBelow (placed snapshot) path := by
  cases found : snapshot[path.text]? with
  | some node =>
    have member := (mem_placed_iff_found normal).mpr ⟨spelled, found⟩
    rw [(ordered_placed normal).mentions_of_mem member, listedIn, found]
    rfl
  | none =>
    have unowned : ∀ entry ∈ placed snapshot, entry.1 ≠ path := by
      rintro ⟨_, node⟩ member rfl
      have held := ((mem_placed_iff_found normal).mp member).2
      rw [found] at held
      exact nomatch held
    rw [mentions_of_unowned unowned, listedIn, found]
    rfl

theorem depicts_of_ofSnapshot (accepted : ofSnapshot snapshot = .ok vfs) : Depicts snapshot vfs := by
  have ordered : Ordered (placed snapshot) := ordered_placed normal
  obtain ⟨_, loaded⟩ := sound_of_ofSnapshot ordered.distinct accepted
  have consistent : vfs.Consistent := consistent_of_ofSnapshot accepted
  have nodes (path : Path) : path ∈ vfs.nodes ↔
      path = Path.root ∨ ∃ key ∈ snapshot, path <+: Path.ofText key := by
    rw [loaded.mem_iff, exists_placed_iff]
  refine ⟨nodes, fun {path content} => ?_, fun {path names} found => ?_⟩
  · rw [file_loaded_iff loaded ordered.distinct, mem_placed_iff_found normal]
  · have spelled : path.Normal := consistent.normal (mem_nodes_iff.mpr ⟨_, found⟩)
    have order := listing_eq_mentions loaded found (consistent.distinct found)
    rw [mentions_placed normal spelled, List.eraseDups_append, removeAll_namesBelow] at order
    refine ⟨_, order, fun name => ?_, ?_⟩
    · rw [List.mem_eraseDups, mem_unlisted_iff, nodes, or_iff_right (Path.child_ne_root path name)]
    · have sorted := Std.ExtTreeMap.ordered_keys_toList (t := snapshot)
      refine (pairwise_givenBefore sorted _).imp ?_
      rintro early late ⟨first, second, here, there, less⟩
      exact ⟨first.1, second.1, firstKey_of_find? here, firstKey_of_find? there,
        compareOfLessAndEq_eq_lt.mp less⟩

section verbatim

theorem verbatim_lookup {node : Node} :
    (verbatim snapshot).nodes[path]? = some node ↔ (path, node) ∈ placed snapshot :=
  Table.getElem?_ofList_iff (ordered_placed normal).distinct

theorem mem_verbatim {key : String} (member : key ∈ snapshot) :
    Path.ofText key ∈ (verbatim snapshot).nodes := by
  obtain ⟨node, found⟩ := mem_snapshot_iff.mp member
  exact mem_nodes_iff.mpr ⟨node, (verbatim_lookup normal).mpr (mem_placed found)⟩

variable (consistent : (verbatim snapshot).Consistent)
include consistent

theorem coherent_of_verbatim : Coherent (placed snapshot) := by
  constructor
  · intro content member
    obtain ⟨names, found⟩ := consistent.root
    have file := (verbatim_lookup normal).mpr member
    rw [found] at file
    exact nomatch file
  · intro path other content node file member within
    have found := (verbatim_lookup normal).mpr file
    have below := mem_nodes_iff.mpr ⟨node, (verbatim_lookup normal).mpr member⟩
    obtain ⟨rest, rfl⟩ := within
    by_contra differs
    obtain ⟨names, directory⟩ := consistent.ancestor_isDirectory (by simpa using differs) below
    rw [found] at directory
    exact nomatch directory

theorem listed_of_verbatim : Listed (placed snapshot) := by
  have lookup {dir : Path} {listed : List String} (member : (dir, .dir listed) ∈ placed snapshot) :=
    (verbatim_lookup normal).mpr member
  constructor
  · intro dir listed member
    exact consistent.segments (lookup member)
  · intro dir listed member name inside
    obtain ⟨node, found⟩ := mem_nodes_iff.mp (consistent.present (lookup member) name inside)
    exact ⟨_, (verbatim_lookup normal).mp found, List.prefix_refl _⟩
  · intro dir listed member _
    exact consistent.distinct (lookup member)

theorem Depicts.mem_verbatim_iff (depicts : Depicts snapshot vfs) :
    path ∈ vfs.nodes ↔ path ∈ (verbatim snapshot).nodes := by
  rw [depicts.nodes]
  constructor
  · rintro (rfl | ⟨key, member, within⟩)
    · exact consistent.root.mem
    · exact consistent.mem_of_within within (mem_verbatim normal member)
  · intro member
    obtain ⟨node, found⟩ := mem_nodes_iff.mp member
    exact .inr (exists_placed_iff.mp ⟨_, (verbatim_lookup normal).mp found, List.prefix_refl path⟩)

theorem Depicts.lookup_dir (depicts : Depicts snapshot vfs) {listed names : List String}
    (own : (verbatim snapshot).nodes[path]? = some (.dir listed))
    (found : vfs.nodes[path]? = some (.dir names)) : names = listed := by
  obtain ⟨added, whole, unlisted, _⟩ := depicts.lists found
  have self : listedIn snapshot path = listed := by
    rw [listedIn, ((mem_placed_iff_found normal).mp ((verbatim_lookup normal).mp own)).2]
    rfl
  -- The list names every child already.
  have none : added = [] := by
    refine List.eq_nil_iff_forall_not_mem.mpr fun name member => ?_
    obtain ⟨child, fresh⟩ := (unlisted name).mp member
    rw [depicts.mem_verbatim_iff normal consistent, consistent.child_mem_iff own] at child
    exact fresh (self.symm ▸ child)
  rw [whole, none, self, eraseDups_of_nodup (consistent.distinct own), List.append_nil]

theorem Depicts.eq_verbatim (depicts : Depicts snapshot vfs) : vfs = verbatim snapshot := by
  have same (path : Path) : vfs.nodes[path]? = (verbatim snapshot).nodes[path]? := by
    cases own : (verbatim snapshot).nodes[path]? with
    | none =>
      rw [← not_mem_nodes_iff] at own ⊢
      rwa [depicts.mem_verbatim_iff normal consistent]
    | some node =>
      cases node with
      | file content =>
        exact depicts.files.mpr ((mem_placed_iff_found normal).mp ((verbatim_lookup normal).mp own))
      | dir listed =>
        have member := (depicts.mem_verbatim_iff normal consistent).mpr (mem_nodes_iff.mpr ⟨_, own⟩)
        obtain ⟨held, found⟩ := mem_nodes_iff.mp member
        cases held with
        | dir names => rw [found, depicts.lookup_dir normal consistent own found]
        | file content =>
          have file := (verbatim_lookup normal).mpr ((mem_placed_iff_found normal).mpr (depicts.files.mp found))
          rw [own] at file
          exact nomatch file
  exact ext_getElem? same

end verbatim

/-- An accepted snapshot with keys in normal form becomes the tree that it describes, and one that
is a consistent file system by itself becomes exactly that. -/
theorem snapshot_fidelity :
    (∀ vfs, ofSnapshot snapshot = .ok vfs → Depicts snapshot vfs) ∧
    ((verbatim snapshot).breach? = none → ofSnapshot snapshot = .ok (verbatim snapshot)) := by
  refine ⟨fun vfs => depicts_of_ofSnapshot normal, fun sound => ?_⟩
  have consistent := breach?_eq_none_iff.mp sound
  have acceptable := And.intro (coherent_of_verbatim normal consistent) (listed_of_verbatim normal consistent)
  obtain ⟨vfs, accepted, _⟩ := (ofSnapshot_cases (ordered_placed normal)).1 acceptable
  rw [accepted, (depicts_of_ofSnapshot normal accepted).eq_verbatim normal consistent]

end normal

/-- Two children are not listed; a key below the second comes after the first. -/
def unlistedSiblings : Snapshot :=
  .ofList [("/", Node.dir ["b"]), ("/a!", .file ""), ("/a/z", .file "note"), ("/b", .dir [])]

/-- Every child is listed, though not in the order of the keys. -/
def listedSiblings : Snapshot :=
  .ofList [("/", Node.dir ["b", "a"]), ("/a", .file "note"), ("/b", .dir [])]

theorem siblings_fidelity :
    (∃ vfs, ofSnapshot unlistedSiblings = .ok vfs ∧ Depicts unlistedSiblings vfs ∧
      vfs.nodes[Path.root]? = some (.dir ["b", "a!", "a"])) ∧
    ofSnapshot listedSiblings = .ok (verbatim listedSiblings) := by
  constructor
  · have keys : ∀ key ∈ unlistedSiblings.keys, PathText.isNormal key.toList = true := by decide +kernel
    have root : (ofSnapshot unlistedSiblings).toOption.map (·.nodes[Path.root]?) =
        some (some (.dir ["b", "a!", "a"])) := by decide +kernel
    cases accepted : ofSnapshot unlistedSiblings with
    | error breach =>
      rw [accepted] at root
      exact nomatch root
    | ok vfs =>
      obtain ⟨depicts, _⟩ := snapshot_fidelity fun key member => keys key (Std.ExtTreeMap.mem_keys.mpr member)
      rw [accepted] at root
      exact ⟨vfs, rfl, depicts vfs accepted, Option.some.inj root⟩
  · have keys : ∀ key ∈ listedSiblings.keys, PathText.isNormal key.toList = true := by decide +kernel
    obtain ⟨_, same⟩ := snapshot_fidelity fun key member => keys key (Std.ExtTreeMap.mem_keys.mpr member)
    exact same (by decide +kernel)

end LessonShell.Vfs

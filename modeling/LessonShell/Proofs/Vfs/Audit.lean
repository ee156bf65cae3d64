import LessonShell.Proofs.Vfs.Loading
import Mathlib.Data.List.Nodup

/-! What the audit finds in loaded entries. The directories made on the way are in order by
construction, so it can only object to what the entries list themselves. -/
namespace LessonShell.Vfs

/-- What the entries list is there, under proper names, and outside the root no name twice. -/
structure Listed (entries : List (Path × Node)) : Prop where
  segments : ∀ {dir : Path} {listed : List String}, (dir, .dir listed) ∈ entries →
    ∀ name ∈ listed, IsSegment name
  present : ∀ {dir : Path} {listed : List String}, (dir, .dir listed) ∈ entries →
    ∀ name ∈ listed, ∃ entry ∈ entries, dir.child name <+: entry.1
  distinct : ∀ {dir : Path} {listed : List String}, (dir, .dir listed) ∈ entries → dir ≠ Path.root →
    listed.Nodup

/-- The same, but a directory that was made in advance may list a name twice. -/
structure Passes (entries : List (Path × Node)) : Prop where
  segments : ∀ {dir : Path} {listed : List String}, (dir, .dir listed) ∈ entries →
    ∀ name ∈ listed, IsSegment name
  present : ∀ {dir : Path} {listed : List String}, (dir, .dir listed) ∈ entries →
    ∀ name ∈ listed, ∃ entry ∈ entries, dir.child name <+: entry.1
  distinct : ∀ {dir : Path} {listed : List String}, Leads entries dir listed → listed.Nodup

section audit
variable {entries : List (Path × Node)} {path : Path} {names : List String} {vfs : Vfs}

theorem Distinct.node_eq (distinct : Distinct entries) {first second : Node}
    (here : (path, first) ∈ entries) (there : (path, second) ∈ entries) : first = second :=
  congrArg Prod.snd (List.inj_on_of_nodup_map distinct here there rfl)

theorem Listed.passes (listed : Listed entries) : Passes entries :=
  ⟨listed.segments, listed.present, fun leads => listed.distinct leads.mem leads.1⟩

/-- In order, every directory below the root comes before what would have made it. -/
theorem Ordered.leads (ordered : Ordered entries) {listed : List String}
    (member : (path, .dir listed) ∈ entries) (below : path ≠ Path.root) : Leads entries path listed := by
  obtain ⟨front, back, rfl⟩ := List.append_of_mem member
  refine ⟨below, List.find?_eq_some_iff_append.mpr ⟨Path.isWithin_iff.mpr (List.prefix_refl path), front, back,
    rfl, fun entry before => ?_⟩⟩
  have apart := (List.pairwise_append.mp ordered).2.2 entry before _ List.mem_cons_self
  simpa [← Path.isWithin_iff] using apart

theorem Ordered.passes_iff (ordered : Ordered entries) : Passes entries ↔ Listed entries := by
  constructor
  · intro passes
    exact ⟨passes.segments, passes.present, fun member below => passes.distinct (ordered.leads member below)⟩
  · exact Listed.passes

section loaded
variable (loaded : Loaded entries vfs)
include loaded

theorem order_listing (found : vfs.nodes[path]? = some (.dir names)) :
    names.eraseDups = (mentions entries path).eraseDups := by
  have shows : Shows entries path _ := loaded path
  rw [found] at shows
  cases shows with
  | dir reached unfiled order distinct => exact order

theorem listing_eq_mentions (found : vfs.nodes[path]? = some (.dir names)) (distinct : names.Nodup) :
    names = (mentions entries path).eraseDups := by
  rw [← order_listing loaded found, eraseDups_of_nodup distinct]

theorem nodup_listing_iff (found : vfs.nodes[path]? = some (.dir names)) :
    names.Nodup ↔ ∀ listed, Leads entries path listed → listed.Nodup := by
  have shows : Shows entries path _ := loaded path
  rw [found] at shows
  cases shows with
  | dir reached unfiled order distinct => exact distinct

theorem mem_listing_iff {name : String} (found : vfs.nodes[path]? = some (.dir names)) : name ∈ names ↔
    (∃ listed, (path, .dir listed) ∈ entries ∧ name ∈ listed) ∨
      ∃ entry ∈ entries, path.child name <+: entry.1 := by
  rw [← mem_mentions, ← List.mem_eraseDups, order_listing loaded found, List.mem_eraseDups]

theorem isDirectory_of_unfiled (member : path ∈ vfs.nodes)
    (unfiled : ∀ content, (path, .file content) ∉ entries) : vfs.IsDirectory path := by
  obtain ⟨node, found⟩ := mem_nodes_iff.mp member
  cases node with
  | dir names => exact ⟨names, found⟩
  | file content => exact absurd (loaded.file found) (unfiled content)

theorem file_loaded_iff (distinct : Distinct entries) {content : String} :
    vfs.nodes[path]? = some (.file content) ↔ (path, .file content) ∈ entries := by
  constructor
  · exact loaded.file
  · intro own
    obtain ⟨other, found⟩ := loaded.exists_file own
    rw [found, distinct.node_eq own (loaded.file found)]

theorem exists_own_listing (distinct : Distinct entries) {listed : List String}
    (member : (path, .dir listed) ∈ entries) :
    ∃ names, vfs.nodes[path]? = some (.dir names) ∧ ∀ name ∈ listed, name ∈ names := by
  have there : path ∈ vfs.nodes := loaded.mem_iff.mpr (.inr ⟨_, member, List.prefix_refl _⟩)
  have unfiled (content : String) : (path, .file content) ∉ entries :=
    fun file => nomatch distinct.node_eq member file
  obtain ⟨names, found⟩ := isDirectory_of_unfiled loaded there unfiled
  refine ⟨names, found, fun name inside => ?_⟩
  exact (mem_listing_iff loaded found).mpr (.inl ⟨listed, member, inside⟩)

/-- No file stands in the place of a directory that was made on the way to an entry. -/
theorem isDirectory_above (coherent : Coherent entries) {name : String} {entry : Path × Node}
    (member : entry ∈ entries) (within : path.child name <+: entry.1) : vfs.IsDirectory path := by
  have higher : path <+: entry.1 := (List.prefix_append path [name]).trans within
  have there : path ∈ vfs.nodes := loaded.mem_iff.mpr (.inr ⟨entry, member, higher⟩)
  refine isDirectory_of_unfiled loaded there fun content file => ?_
  rw [coherent.leaves file member higher] at within
  exact Path.not_child_within path name within

theorem passes_of_consistent (distinct : Distinct entries) (consistent : vfs.Consistent) :
    Passes entries := by
  constructor
  · intro dir listed member name inside
    obtain ⟨names, found, kept⟩ := exists_own_listing loaded distinct member
    exact consistent.segments found name (kept name inside)
  · intro dir listed member name inside
    obtain ⟨names, found, kept⟩ := exists_own_listing loaded distinct member
    have child := consistent.present found name (kept name inside)
    exact (loaded.mem_iff.mp child).resolve_left (Path.child_ne_root dir name)
  · intro dir listed leads
    obtain ⟨names, found, _⟩ := exists_own_listing loaded distinct leads.mem
    exact (nodup_listing_iff loaded found).mp (consistent.distinct found) listed leads

theorem consistent_of_passes (coherent : Coherent entries) (normal : ∀ entry ∈ entries, entry.1.Normal)
    (passes : Passes entries) : vfs.Consistent := by
  constructor
  · exact isDirectory_of_unfiled loaded (loaded.mem_iff.mpr (.inl rfl)) coherent.root
  · intro path member
    rcases loaded.mem_iff.mp member with rfl | ⟨entry, held, within⟩
    · exact Path.normal_root
    · exact (normal entry held).of_within within
  · intro path names found name inside
    rcases (mem_listing_iff loaded found).mp inside with ⟨own, member, self⟩ | ⟨entry, held, within⟩
    · exact passes.segments member name self
    · exact (Path.normal_child.mp ((normal entry held).of_within within)).2
  · intro path names found
    exact (nodup_listing_iff loaded found).mpr fun own leads => passes.distinct leads
  · intro path names found name inside
    refine loaded.mem_iff.mpr (.inr ?_)
    rcases (mem_listing_iff loaded found).mp inside with ⟨own, member, self⟩ | below
    · exact passes.present member name self
    · exact below
  · intro path member nonroot
    obtain ⟨entry, held, within⟩ := (loaded.mem_iff.mp member).resolve_left nonroot
    rw [← Path.child_parent_name nonroot] at within
    obtain ⟨names, found⟩ := isDirectory_above loaded coherent held within
    exact ⟨names, found, (mem_listing_iff loaded found).mpr (.inr ⟨entry, held, within⟩)⟩

end loaded

end audit

/-- The names under which entries lie below a directory, in the order of the entries. -/
def namesBelow (entries : List (Path × Node)) (path : Path) : List String :=
  entries.filterMap fun entry => path.toward entry.1

section order
variable {entries : List (Path × Node)} {path : Path} {node : Node} {vfs : Vfs}

theorem mem_namesBelow {name : String} :
    name ∈ namesBelow entries path ↔ ∃ entry ∈ entries, path.child name <+: entry.1 := by
  simp [namesBelow, Path.toward_eq_some_iff]

theorem mentions_of_unowned (unowned : ∀ entry ∈ entries, entry.1 ≠ path) :
    mentions entries path = namesBelow entries path := by
  induction entries with
  | nil => rfl
  | cons entry rest ih =>
    have later := ih fun other member => unowned other (List.mem_cons_of_mem entry member)
    unfold mentions namesBelow at later ⊢
    rw [List.flatMap_cons, List.filterMap_cons, if_neg (unowned entry List.mem_cons_self), later]
    cases path.toward entry.1 <;> rfl

/-- In order, what a directory lists itself comes before what lies below it. -/
theorem Ordered.mentions_of_mem (ordered : Ordered entries) (member : (path, node) ∈ entries) :
    mentions entries path = node.names ++ namesBelow entries path := by
  obtain ⟨front, back, rfl⟩ := List.append_of_mem member
  obtain ⟨_, later, apart⟩ := List.pairwise_append.mp ordered
  have clear : ∀ entry ∈ front, ¬ path <+: entry.1 :=
    fun entry before => apart entry before _ List.mem_cons_self
  have unowned : ∀ entry ∈ back, entry.1 ≠ path := by
    intro entry after same
    exact (List.pairwise_cons.mp later).1 entry after (same ▸ List.prefix_refl path)
  have above : namesBelow front path = [] := by
    rw [← mentions_of_unowned fun entry before same => clear entry before (same ▸ List.prefix_refl path)]
    exact mentions_clear clear
  have beside : path.toward path = none := Path.toward_eq_none_iff.mpr fun both => both.2 rfl
  have below : mentions back path = namesBelow back path := mentions_of_unowned unowned
  have first : mentions front path = [] := mentions_clear clear
  unfold mentions at first below
  unfold namesBelow at above below
  unfold mentions namesBelow
  rw [List.flatMap_append, List.flatMap_cons, first, below, List.filterMap_append, List.filterMap_cons, above,
    beside]
  simp

theorem root_listing (loaded : Loaded entries vfs) (ordered : Ordered entries) {listed : List String}
    (member : (Path.root, .dir listed) ∈ entries) :
    ∃ added, vfs.nodes[Path.root]? = some (.dir (listed.eraseDups ++ added)) ∧
      (listed.eraseDups ++ added).Nodup := by
  obtain ⟨names, found, _⟩ := exists_own_listing loaded ordered.distinct member
  have distinct : names.Nodup := (nodup_listing_iff loaded found).mpr fun own leads => absurd rfl leads.1
  have order := listing_eq_mentions loaded found distinct
  rw [ordered.mentions_of_mem member, List.eraseDups_append] at order
  exact ⟨_, order ▸ found, order ▸ distinct⟩

end order

end LessonShell.Vfs

import Mathlib.Data.List.Perm.Subperm
import LessonShell.Proofs.Vfs.Consistent

/-! A file system that passes its audit is a finite ordered tree. The walk keeps no record
of what it has seen: what ends it, and what keeps it from meeting a node twice, is the tree. -/
namespace LessonShell.Vfs

/-- What is to be visited next: spelled paths, each with its depth. -/
abbrev Agenda := List (Nat × String)

structure Visit where
  depth : Nat
  text : String
  node : Node
  deriving DecidableEq

/-- A depth-first walk along the child lists, by spelled paths: from an agenda, the visits in
their order. -/
inductive Walks (vfs : Vfs) : Agenda → List Visit → Prop where
  | done : Walks vfs [] []
  | file {depth : Nat} {text content : String} {agenda : Agenda} {visits : List Visit}
    (found : vfs.get? text = some (.file content)) (rest : Walks vfs agenda visits) :
    Walks vfs ((depth, text) :: agenda) (⟨depth, text, .file content⟩ :: visits)
  | dir {depth : Nat} {text : String} {names : List String} {agenda : Agenda} {visits : List Visit}
    (found : vfs.get? text = some (.dir names))
    (rest : Walks vfs (names.map (fun name => (depth + 1, PathText.join text name)) ++ agenda) visits) :
    Walks vfs ((depth, text) :: agenda) (⟨depth, text, .dir names⟩ :: visits)

/-- An entry as a walk visits it: its depth is the number of its segments. -/
def visitOf (entry : Path × Node) : Visit := ⟨entry.1.length, entry.1.text, entry.2⟩

theorem Walks.deterministic {vfs : Vfs} {agenda : Agenda} {visits others : List Visit} (walks : Walks vfs agenda visits)
    (again : Walks vfs agenda others) : visits = others := by
  induction walks generalizing others with
  | done => cases again; rfl
  | file found _ ih =>
    cases again with
    | file same rest =>
      obtain rfl := Node.file.inj (Option.some.inj (found.symm.trans same))
      rw [ih rest]
    | dir other _ => exact nomatch found.symm.trans other
  | dir found _ ih =>
    cases again with
    | file other _ => exact nomatch found.symm.trans other
    | dir same rest =>
      obtain rfl := listing_unique found same
      rw [ih rest]

/-- What can be walked for each name can be walked for all of them in turn. -/
theorem Walks.append_all {vfs : Vfs} {names : List String} {task : String → Nat × String}
    {visited : String → List Visit}
    (each : ∀ name ∈ names, ∀ {agenda : Agenda} {visits : List Visit},
      Walks vfs agenda visits → Walks vfs (task name :: agenda) (visited name ++ visits))
    {agenda : Agenda} {visits : List Visit} (rest : Walks vfs agenda visits) :
    Walks vfs (names.map task ++ agenda) (names.flatMap visited ++ visits) := by
  induction names with
  | nil => exact rest
  | cons name names ih =>
    rw [List.map_cons, List.cons_append, List.flatMap_cons, List.append_assoc]
    exact each name List.mem_cons_self (ih fun other member => each other (List.mem_cons_of_mem _ member))

theorem within_of_mem_walkFrom {vfs : Vfs} {fuel : Nat} {path other : Path}
    (visited : other ∈ (vfs.walkFrom fuel path).map Prod.fst) : path <+: other := by
  induction fuel generalizing path with
  | zero => simp [walkFrom] at visited
  | succ fuel ih =>
    rw [walkFrom] at visited
    split at visited
    · simp at visited
    · rw [List.map_singleton, List.mem_singleton] at visited
      exact visited ▸ List.prefix_refl _
    · next names _ =>
      change other ∈ path :: (names.flatMap _).map Prod.fst at visited
      rw [List.map_flatMap, List.mem_cons, List.mem_flatMap] at visited
      rcases visited with rfl | ⟨name, _, below⟩
      · exact List.prefix_refl _
      · exact (List.prefix_append path [name]).trans (ih below)

namespace Consistent
variable {vfs : Vfs} {path : Path}

/-- The prefixes of a path are nodes as well, so no path has as many segments as there are nodes. -/
theorem length_lt_size (consistent : vfs.Consistent) (member : path ∈ vfs.nodes) :
    path.length < vfs.nodes.size := by
  have distinct : ((List.range (path.length + 1)).map path.take).Nodup := by
    refine List.Nodup.map_on (fun first small second big same => ?_) List.nodup_range
    have lengths := congrArg List.length same
    rw [List.mem_range] at small big
    rw [List.length_take, List.length_take] at lengths
    omega
  have inside : (List.range (path.length + 1)).map path.take ⊆ vfs.nodes.keys := by
    intro top among
    obtain ⟨count, _, rfl⟩ := List.mem_map.mp among
    exact Std.ExtTreeMap.mem_keys.mpr (consistent.mem_of_within (List.take_prefix count path) member)
  have bound := (distinct.subperm inside).length_le
  rw [List.length_map, List.length_range, Std.ExtTreeMap.length_keys] at bound
  exact bound

theorem get?_text (consistent : vfs.Consistent) (member : path ∈ vfs.nodes) :
    vfs.get? path.text = vfs.nodes[path]? := by
  rw [get?, Path.ofText_text (consistent.normal member)]

theorem walks_walkFrom (consistent : vfs.Consistent) {fuel : Nat} (member : path ∈ vfs.nodes)
    (enough : vfs.nodes.size ≤ path.length + fuel) {agenda : Agenda} {visits : List Visit}
    (rest : Walks vfs agenda visits) :
    Walks vfs ((path.length, path.text) :: agenda) ((vfs.walkFrom fuel path).map visitOf ++ visits) := by
  induction fuel generalizing path agenda visits with
  | zero =>
    have bound := consistent.length_lt_size member
    omega
  | succ fuel ih =>
    have text := consistent.get?_text member
    obtain ⟨node, found⟩ := mem_nodes_iff.mp member
    rw [found] at text
    rw [walkFrom, found]
    cases node with
    | file content => exact .file text rest
    | dir names =>
      refine .dir text ?_
      change Walks vfs _ ((names.flatMap _).map visitOf ++ visits)
      rw [List.map_flatMap]
      refine Walks.append_all (fun name listed => ?_) rest
      have length := Path.length_child path name
      have walks := @ih (path.child name) (consistent.present found name listed) (by omega)
      rwa [length, ← PathText.join_text (consistent.normal member)] at walks

theorem eq_of_file (consistent : vfs.Consistent) {content : String} {other : Path}
    (found : vfs.nodes[path]? = some (.file content)) (within : path <+: other)
    (member : other ∈ vfs.nodes) : other = path := by
  obtain ⟨rest, rfl⟩ := within
  by_contra longer
  obtain ⟨names, directory⟩ := consistent.ancestor_isDirectory
    (fun none => longer (by rw [none, List.append_nil])) member
  exact nomatch found.symm.trans directory

theorem mem_walkFrom_iff (consistent : vfs.Consistent) {fuel : Nat} (member : path ∈ vfs.nodes)
    (enough : vfs.nodes.size ≤ path.length + fuel) {other : Path} {node : Node} :
    (other, node) ∈ vfs.walkFrom fuel path ↔ path <+: other ∧ vfs.nodes[other]? = some node := by
  induction fuel generalizing path with
  | zero =>
    have bound := consistent.length_lt_size member
    omega
  | succ fuel ih =>
    obtain ⟨held, found⟩ := mem_nodes_iff.mp member
    rw [walkFrom, found]
    cases held with
    | file content =>
      rw [List.mem_singleton, Prod.mk.injEq]
      constructor
      · rintro ⟨rfl, rfl⟩
        exact ⟨List.prefix_refl _, found⟩
      · rintro ⟨within, held⟩
        obtain rfl := consistent.eq_of_file found within (mem_nodes_iff.mpr ⟨node, held⟩)
        exact ⟨rfl, Option.some.inj (held.symm.trans found)⟩
    | dir names =>
      have below {name : String} (listed : name ∈ names) :=
        @ih (path.child name) (consistent.present found name listed)
          (by rw [Path.length_child]; omega)
      rw [List.mem_cons, Prod.mk.injEq, List.mem_flatMap]
      constructor
      · rintro (⟨rfl, rfl⟩ | ⟨name, listed, visited⟩)
        · exact ⟨List.prefix_refl _, found⟩
        · obtain ⟨within, held⟩ := (below listed).mp visited
          exact ⟨(List.prefix_append path [name]).trans within, held⟩
      · rintro ⟨⟨rest, rfl⟩, held⟩
        cases rest with
        | nil =>
          rw [List.append_nil] at held ⊢
          exact .inl ⟨rfl, Option.some.inj (held.symm.trans found)⟩
        | cons name rest =>
          have within : path.child name <+: path ++ name :: rest := ⟨rest, by simp [Path.child]⟩
          have inside := consistent.mem_of_within within (mem_nodes_iff.mpr ⟨node, held⟩)
          have listed := (consistent.child_mem_iff found).mp inside
          exact .inr ⟨name, listed, (below listed).mpr ⟨within, held⟩⟩

theorem nodup_walkFrom (consistent : vfs.Consistent) (fuel : Nat) (path : Path) :
    ((vfs.walkFrom fuel path).map Prod.fst).Nodup := by
  induction fuel generalizing path with
  | zero => exact List.nodup_nil
  | succ fuel ih =>
    rw [walkFrom]
    cases found : vfs.nodes[path]? with
    | none => exact List.nodup_nil
    | some node =>
      cases node with
      | file content => exact List.nodup_singleton _
      | dir names =>
        change (path :: (names.flatMap _).map Prod.fst).Nodup
        rw [List.map_flatMap, List.nodup_cons, List.nodup_flatMap]
        refine ⟨?_, fun name _ => ih (path.child name), ?_⟩
        · intro again
          obtain ⟨name, _, visited⟩ := List.mem_flatMap.mp again
          exact Path.not_child_within path name (within_of_mem_walkFrom visited)
        · refine (consistent.distinct found).imp fun differs => List.disjoint_left.mpr ?_
          intro other first second
          have one := within_of_mem_walkFrom first
          have two := within_of_mem_walkFrom second
          have same := (List.prefix_of_prefix_length_le one two (by simp)).eq_of_length (by simp)
          exact differs (List.singleton_inj.mp (List.append_cancel_left same))

theorem walk_perm (consistent : vfs.Consistent) : vfs.walk.Perm vfs.entries := by
  have distinct : vfs.entries.Nodup := by
    have keys := Std.ExtTreeMap.nodup_keys (t := vfs.nodes)
    rw [← Std.ExtTreeMap.map_fst_toList_eq_keys] at keys
    exact keys.of_map
  refine (List.perm_ext_iff_of_nodup (consistent.nodup_walkFrom _ _).of_map distinct).mpr fun (path, node) => ?_
  rw [mem_entries_iff, consistent.mem_walkFrom_iff consistent.root.mem (Nat.le_add_left _ _)]
  exact and_iff_right List.nil_prefix

theorem nodup_texts (consistent : vfs.Consistent) : (vfs.walk.map fun entry => entry.1.text).Nodup := by
  have distinct := consistent.nodup_walkFrom vfs.nodes.size Path.root
  have normal {entry : Path × Node} (member : entry ∈ vfs.walk) : entry.1.Normal := by
    have found := mem_entries_iff.mp (consistent.walk_perm.mem_iff.mp member)
    exact consistent.normal (mem_nodes_iff.mpr ⟨_, found⟩)
  refine List.Nodup.map_on (fun first visited second again same => ?_) distinct.of_map
  have path := Path.text_injective (normal visited) (normal again) same
  exact List.inj_on_of_nodup_map distinct visited again path

end Consistent

/-- In a file system that passes its audit the walk from the root ends, and in one way only:
it visits the nodes of the map, each of them once and at the depth of its segments. -/
theorem walk_visits_tree (vfs : Vfs) (sound : vfs.breach? = none) :
    (∀ visits, Walks vfs [(0, "/")] visits ↔ visits = vfs.walk.map visitOf) ∧
    vfs.walk.Perm vfs.entries ∧ (vfs.walk.map fun entry => entry.1.text).Nodup := by
  have consistent := breach?_eq_none_iff.mp sound
  have ends : Walks vfs [(0, "/")] (vfs.walk.map visitOf) := by
    have walks := consistent.walks_walkFrom consistent.root.mem (Nat.le_add_left _ _) Walks.done
    rwa [List.append_nil] at walks
  refine ⟨fun visits => ⟨fun walks => walks.deterministic ends, ?_⟩, consistent.walk_perm, consistent.nodup_texts⟩
  rintro rfl
  exact ends

/-- Children come in stored order, whatever the order of their texts. -/
theorem walk_visits_stored_order :
    let vfs : Vfs := ⟨.ofList [([], .dir ["b", "a"]), (["a"], .file "note"), (["b"], .dir ["c", "a"]),
      (["b", "a"], .emptyDir), (["b", "c"], .file "")] Path.order⟩
    vfs.breach? = none ∧
      (∀ visits, Walks vfs [(0, "/")] visits ↔ visits =
        [⟨0, "/", .dir ["b", "a"]⟩, ⟨1, "/b", .dir ["c", "a"]⟩, ⟨2, "/b/c", .file ""⟩,
          ⟨2, "/b/a", .emptyDir⟩, ⟨1, "/a", .file "note"⟩]) ∧
      vfs.walk.Perm vfs.entries := by
  intro vfs
  have sound : vfs.breach? = none := by decide +kernel
  have visited : vfs.walk.map visitOf =
      [⟨0, "/", .dir ["b", "a"]⟩, ⟨1, "/b", .dir ["c", "a"]⟩, ⟨2, "/b/c", .file ""⟩,
        ⟨2, "/b/a", .emptyDir⟩, ⟨1, "/a", .file "note"⟩] := by decide +kernel
  obtain ⟨walks, perm, _⟩ := walk_visits_tree vfs sound
  exact ⟨sound, visited ▸ walks, perm⟩

end LessonShell.Vfs

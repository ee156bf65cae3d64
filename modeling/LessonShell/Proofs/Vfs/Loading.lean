import LessonShell.Proofs.Vfs.Linking

/-! Loading entries one after another, in whatever order, when no two of them share a path. An
entry below a directory may come before the directory's own and make it in advance; of the order
nothing matters but who is the first to mention a name. -/
namespace LessonShell

/-- What a node lists; nothing if it is a file. -/
def Node.names : Node → List String
  | .dir names => names
  | .file _ => []

namespace Vfs

/-- An entry at the path that its text spells. -/
def located (entry : String × Node) : Path × Node := (Path.ofText entry.1, entry.2)

/-- No entry stands at or above an earlier one. -/
def Ordered (entries : List (Path × Node)) : Prop :=
  entries.Pairwise fun early late => ¬ late.1 <+: early.1

def Distinct (entries : List (Path × Node)) : Prop := (entries.map Prod.fst).Nodup

/-- The root is no file, and nothing stands below a file. -/
structure Coherent (entries : List (Path × Node)) : Prop where
  root : ∀ content, (Path.root, .file content) ∉ entries
  leaves : ∀ {path other : Path} {content : String} {node : Node}, (path, .file content) ∈ entries →
    (other, node) ∈ entries → path <+: other → other = path

/-- The names that the entries give to a directory, in their order: its own entry gives those that
it lists, and an entry below it the one under which it lies there. -/
def mentions (entries : List (Path × Node)) (path : Path) : List String :=
  entries.flatMap fun entry =>
    (if entry.1 = path then entry.2.names else []) ++ (path.toward entry.1).toList

/-- The first entry at or below a directory is its own, so that nothing made it in advance. -/
def Leads (entries : List (Path × Node)) (path : Path) (listed : List String) : Prop :=
  path ≠ Path.root ∧ entries.find? (·.1.isWithin path) = some (path, .dir listed)

/-- What can be at a path once the entries are loaded. A directory has the names that are given to
it, in the order in which they are first mentioned; one that it lists twice stays twice in the
list only if nothing made the directory in advance. -/
inductive Shows (entries : List (Path × Node)) (path : Path) : Option Node → Prop
  | nothing (below : path ≠ Path.root) (clear : ∀ entry ∈ entries, ¬ path <+: entry.1) :
    Shows entries path none
  | file {content : String} (own : (path, .file content) ∈ entries) :
    Shows entries path (some (.file content))
  | dir {names : List String} (reached : path = Path.root ∨ ∃ entry ∈ entries, path <+: entry.1)
    (unfiled : ∀ content, (path, .file content) ∉ entries)
    (order : names.eraseDups = (mentions entries path).eraseDups)
    (distinct : names.Nodup ↔ ∀ listed, Leads entries path listed → listed.Nodup) :
    Shows entries path (some (.dir names))

def Loaded (entries : List (Path × Node)) (vfs : Vfs) : Prop :=
  ∀ path, Shows entries path vfs.nodes[path]?

section entries
variable {entries : List (Path × Node)} {path key : Path} {node : Node} {listed : List String}

theorem Ordered.distinct (ordered : Ordered entries) : Distinct entries := by
  rw [Distinct, List.Nodup, List.pairwise_map]
  refine ordered.imp fun apart same => apart ?_
  rw [same]

theorem distinct_concat_iff :
    Distinct (entries ++ [(key, node)]) ↔ Distinct entries ∧ ∀ entry ∈ entries, entry.1 ≠ key := by
  simp [Distinct, List.nodup_append]

theorem mem_mentions {name : String} : name ∈ mentions entries path ↔
    (∃ listed, (path, .dir listed) ∈ entries ∧ name ∈ listed) ∨
      ∃ entry ∈ entries, path.child name <+: entry.1 := by
  simp only [mentions, List.mem_flatMap, List.mem_append, Option.mem_toList, Path.toward_eq_some_iff]
  constructor
  · rintro ⟨⟨key, node⟩, member, own | below⟩
    · split at own
      · next same =>
        cases node with
        | dir listed => exact .inl ⟨listed, same ▸ member, own⟩
        | file content => cases own
      · cases own
    · exact .inr ⟨_, member, below⟩
  · rintro (⟨listed, member, own⟩ | ⟨entry, member, below⟩)
    · exact ⟨_, member, .inl (by simpa [Node.names] using own)⟩
    · exact ⟨entry, member, .inr below⟩

theorem mentions_append : mentions (entries ++ [(key, node)]) path =
    mentions entries path ++ ((if key = path then node.names else []) ++ (path.toward key).toList) := by
  simp [mentions]

theorem mentions_clear (clear : ∀ entry ∈ entries, ¬ path <+: entry.1) : mentions entries path = [] := by
  rw [List.eq_nil_iff_forall_not_mem]
  intro name member
  rcases mem_mentions.mp member with ⟨listed, own, _⟩ | ⟨entry, held, within⟩
  · exact clear _ own (List.prefix_refl path)
  · exact clear entry held ((List.prefix_append path [name]).trans within)

theorem Leads.mem (leads : Leads entries path listed) : (path, .dir listed) ∈ entries :=
  List.mem_of_find?_eq_some leads.2

theorem leads_append_of_ne (differs : key ≠ path) :
    Leads (entries ++ [(key, node)]) path listed ↔ Leads entries path listed := by
  unfold Leads
  rw [List.find?_append, Option.or_eq_some_iff]
  constructor
  · rintro ⟨below, early | ⟨_, last⟩⟩
    · exact ⟨below, early⟩
    · have same := List.mem_singleton.mp (List.mem_of_find?_eq_some last)
      exact absurd (Prod.mk.inj same).1.symm differs
  · rintro ⟨below, early⟩
    exact ⟨below, .inl early⟩

theorem leads_append_self (clear : ∀ entry ∈ entries, ¬ key <+: entry.1) :
    Leads (entries ++ [(key, node)]) key listed ↔ key ≠ Path.root ∧ node = .dir listed := by
  have none : entries.find? (·.1.isWithin key) = none := by
    rw [List.find?_eq_none]
    intro entry member within
    exact clear entry member (Path.isWithin_iff.mp within)
  have self : key.isWithin key = true := Path.isWithin_iff.mpr (List.prefix_refl key)
  simp [Leads, List.find?_append, none, self]

theorem not_leads_append_self (fresh : ∀ entry ∈ entries, entry.1 ≠ key) {early : Path × Node}
    (member : early ∈ entries) (within : key <+: early.1) : ¬ Leads (entries ++ [(key, node)]) key listed := by
  rintro ⟨_, found⟩
  rw [List.find?_append, Option.or_eq_some_iff] at found
  rcases found with first | ⟨none, _⟩
  · exact fresh _ (List.mem_of_find?_eq_some first) rfl
  · exact List.find?_eq_none.mp none early member (Path.isWithin_iff.mpr within)

end entries

section loading
variable {entries : List (Path × Node)} {path key : Path} {node : Node} {vfs : Vfs}

theorem loaded_empty : Loaded [] Vfs.empty := by
  intro path
  rw [empty, getElem?_insert]
  split
  · next top =>
    subst top
    exact .dir (.inl rfl) (by simp) rfl (by simp [Leads])
  · next below =>
    rw [Std.ExtTreeMap.getElem?_empty]
    exact .nothing (Ne.symm below) (by simp)

theorem Loaded.mem_iff (loaded : Loaded entries vfs) :
    path ∈ vfs.nodes ↔ path = Path.root ∨ ∃ entry ∈ entries, path <+: entry.1 := by
  have shows : Shows entries path _ := loaded path
  rw [mem_nodes_iff]
  generalize vfs.nodes[path]? = held at shows
  cases shows with
  | nothing below clear => simpa [below] using clear
  | file own => simpa using Or.inr ⟨path, ⟨_, own⟩, List.prefix_refl path⟩
  | dir reached unfiled order distinct => simpa using reached

theorem Loaded.file (loaded : Loaded entries vfs) {content : String}
    (found : vfs.nodes[path]? = some (.file content)) : (path, .file content) ∈ entries := by
  have shows : Shows entries path _ := loaded path
  rw [found] at shows
  cases shows with
  | file own => exact own

theorem Loaded.exists_file (loaded : Loaded entries vfs) {content : String}
    (own : (path, .file content) ∈ entries) : ∃ content, vfs.nodes[path]? = some (.file content) := by
  have shows : Shows entries path _ := loaded path
  generalize vfs.nodes[path]? = held at shows
  cases shows with
  | nothing below clear => exact absurd (List.prefix_refl path) (clear _ own)
  | file other => exact ⟨_, rfl⟩
  | dir reached unfiled order distinct => exact absurd own (unfiled content)

theorem Loaded.blocked_iff (loaded : Loaded entries vfs) : Blocked vfs path ↔
    ∃ top content, top <+: path ∧ top ≠ path ∧ (top, .file content) ∈ entries := by
  constructor
  · rintro ⟨top, content, within, differs, found⟩
    exact ⟨top, content, within, differs, loaded.file found⟩
  · rintro ⟨top, content, within, differs, own⟩
    obtain ⟨other, found⟩ := loaded.exists_file own
    exact ⟨top, other, within, differs, found⟩

theorem coherent_concat_iff (loaded : Loaded entries vfs) (fresh : ∀ entry ∈ entries, entry.1 ≠ key) :
    Coherent (entries ++ [(key, node)]) ↔ Coherent entries ∧
      (∀ content, node = .file content → key ∉ vfs.nodes) ∧ ¬ Blocked vfs key := by
  rw [loaded.mem_iff, loaded.blocked_iff]
  have last : (key, node) ∈ entries ++ [(key, node)] := by simp
  constructor
  · intro coherent
    refine ⟨⟨fun content member => coherent.root content (List.mem_append_left _ member),
      fun file other => coherent.leaves (List.mem_append_left _ file) (List.mem_append_left _ other)⟩, ?_, ?_⟩
    · rintro content rfl (rfl | ⟨entry, member, within⟩)
      · exact coherent.root content last
      · exact fresh entry member (coherent.leaves last (List.mem_append_left _ member) within)
    · rintro ⟨top, content, within, differs, own⟩
      exact differs (coherent.leaves (List.mem_append_left _ own) last within).symm
  · rintro ⟨coherent, unfiled, free⟩
    constructor
    · intro content member
      rcases List.mem_append.mp member with early | late
      · exact coherent.root content early
      · obtain ⟨top, same⟩ := Prod.mk.inj (List.mem_singleton.mp late)
        exact unfiled content same.symm (.inl top.symm)
    · intro file other content below own member within
      rcases List.mem_append.mp own with early | late <;> rcases List.mem_append.mp member with old | new
      · exact coherent.leaves early old within
      · obtain ⟨rfl, _⟩ := Prod.mk.inj (List.mem_singleton.mp new)
        by_contra differs
        exact free ⟨file, content, within, Ne.symm differs, early⟩
      · obtain ⟨rfl, same⟩ := Prod.mk.inj (List.mem_singleton.mp late)
        exact absurd (.inr ⟨_, old, within⟩) (unfiled content same.symm)
      · rw [(Prod.mk.inj (List.mem_singleton.mp late)).1, (Prod.mk.inj (List.mem_singleton.mp new)).1]

theorem define_absent (absent : vfs.nodes[key]? = none) :
    vfs.define key node = .ok ⟨vfs.nodes.insert key node⟩ := by
  simp only [define, absent]

theorem define_dir {children listed : List String} (found : vfs.nodes[key]? = some (.dir children)) :
    vfs.define key (.dir listed) = .ok ⟨vfs.nodes.insert key (.dir (listAll children listed))⟩ := by
  simp only [define, found]
  rfl

theorem define_file {held : Node} {content : String} (found : vfs.nodes[key]? = some held) :
    vfs.define key (.file content) = .error (.conflictingEntry key) := by
  simp only [define, found]

/-- What an entry puts in its place: itself, or its names after those of a directory made in advance. -/
theorem exists_define (loaded : Loaded entries vfs) (fresh : ∀ entry ∈ entries, entry.1 ≠ key)
    (unfiled : ∀ content, node = .file content → key ∉ vfs.nodes) :
    ∃ put, vfs.define key node = .ok ⟨vfs.nodes.insert key put⟩ ∧
      Shows (entries ++ [(key, node)]) key (some put) := by
  have last : (key, node) ∈ entries ++ [(key, node)] := by simp
  have named : (if key = key then node.names else []) ++ (key.toward key).toList = node.names := by
    have beside : key.toward key = none := Path.toward_eq_none_iff.mpr fun both => both.2 rfl
    simp [beside]
  have only {content : String} (member : (key, .file content) ∈ entries ++ [(key, node)]) :
      node = .file content := by
    rcases List.mem_append.mp member with early | late
    · exact absurd rfl (fresh _ early)
    · exact (Prod.mk.inj (List.mem_singleton.mp late)).2.symm
  have reached : key = Path.root ∨ ∃ entry ∈ entries ++ [(key, node)], key <+: entry.1 :=
    .inr ⟨_, last, List.prefix_refl key⟩
  have shows : Shows entries key _ := loaded key
  generalize found : vfs.nodes[key]? = held at shows
  cases shows with
  | nothing below clear =>
    refine ⟨node, define_absent found, ?_⟩
    cases node with
    | file content => exact .file last
    | dir listed =>
      refine .dir reached (fun content member => nomatch only member) ?_ ?_
      · rw [mentions_append, mentions_clear clear, named]
        rfl
      · simp [leads_append_self clear, below]
  | file own => exact absurd rfl (fresh _ own)
  | dir before clear order distinct =>
    cases node with
    | file content => exact absurd (mem_nodes_iff.mpr ⟨_, found⟩) (unfiled content rfl)
    | dir listed =>
      refine ⟨_, define_dir found, .dir reached (fun content member => nomatch only member) ?_ ?_⟩
      · rw [mentions_append, named, eraseDups_listAll]
        exact eraseDups_append_congr order listed
      · have repeats : ∀ names, Leads (entries ++ [(key, .dir listed)]) key names → names.Nodup := by
          intro names leads
          rcases before with top | ⟨early, member, within⟩
          · exact absurd top leads.1
          · exact absurd leads (not_leads_append_self fresh member within)
        have kept := distinct.mpr fun names leads => absurd rfl (fresh _ leads.mem)
        exact iff_of_true (nodup_listAll_iff.mpr kept) repeats

theorem Shows.above (loaded : Loaded entries vfs) (free : ¬ Blocked vfs key) {name : String}
    (step : path.toward key = some name) :
    Shows (entries ++ [(key, node)]) path (some (.dir (listName name (vfs.listedAt path)))) := by
  obtain ⟨within, differs⟩ := Path.exists_toward_iff.mp ⟨name, step⟩
  have reached : path = Path.root ∨ ∃ entry ∈ entries ++ [(key, node)], path <+: entry.1 :=
    .inr ⟨(key, node), by simp, within⟩
  have unfiled (content : String) : (path, .file content) ∉ entries ++ [(key, node)] := by
    intro member
    rcases List.mem_append.mp member with early | late
    · exact free (loaded.blocked_iff.mpr ⟨path, content, within, differs, early⟩)
    · exact differs (Prod.mk.inj (List.mem_singleton.mp late)).1
  have named : mentions (entries ++ [(key, node)]) path = mentions entries path ++ [name] := by
    simp [mentions_append, step, Ne.symm differs]
  have shows : Shows entries path _ := loaded path
  unfold listedAt
  generalize vfs.nodes[path]? = held at shows
  refine .dir reached unfiled ?_ ?_
  · rw [eraseDups_listName, named]
    cases shows with
    | nothing below clear => rw [mentions_clear clear]
    | file own => exact absurd (List.mem_append_left _ own) (unfiled _)
    | dir before clear order distinct => exact eraseDups_append_congr order [name]
  · simp only [leads_append_of_ne (Ne.symm differs)]
    rw [show listName name _ = listAll _ [name] from rfl, nodup_listAll_iff]
    cases shows with
    | nothing below clear =>
      refine iff_of_true List.nodup_nil fun listed leads => ?_
      exact absurd (List.prefix_refl path) (clear _ leads.mem)
    | file own => exact absurd (List.mem_append_left _ own) (unfiled _)
    | dir before clear order distinct => exact distinct

theorem Shows.beside {held : Option Node} (shows : Shows entries path held) (apart : ¬ path <+: key) :
    Shows (entries ++ [(key, node)]) path held := by
  have differs : key ≠ path := fun same => apart (same ▸ List.prefix_refl path)
  have step : path.toward key = none := Path.toward_eq_none_iff.mpr fun both => apart both.1
  have named : mentions (entries ++ [(key, node)]) path = mentions entries path := by
    simp [mentions_append, step, differs]
  cases shows with
  | nothing below clear =>
    refine .nothing below fun entry member => ?_
    rcases List.mem_append.mp member with early | late
    · exact clear entry early
    · rwa [List.mem_singleton.mp late]
  | file own => exact .file (List.mem_append_left _ own)
  | dir before clear order distinct =>
    refine .dir (before.imp_right fun ⟨entry, member, within⟩ => ⟨entry, List.mem_append_left _ member, within⟩)
      (fun content member => ?_) (order.trans (by rw [named])) ?_
    · rcases List.mem_append.mp member with early | late
      · exact clear content early
      · exact differs (Prod.mk.inj (List.mem_singleton.mp late)).1.symm
    · simpa only [leads_append_of_ne differs] using distinct

/-- Loading one more entry fails exactly when it contradicts an earlier one. -/
theorem load_next {entry : String × Node} (distinct : Distinct (entries ++ [located entry]))
    (coherent : Coherent entries) (loaded : Loaded entries vfs) :
    (Coherent (entries ++ [located entry]) → ∃ after, vfs.load entry = .ok after ∧
      Loaded (entries ++ [located entry]) after) ∧
    (¬ Coherent (entries ++ [located entry]) → ∃ breach, vfs.load entry = .error breach) := by
  obtain ⟨key, node⟩ := entry
  let path := Path.ofText key
  change Distinct (entries ++ [(path, node)]) at distinct
  change (Coherent (entries ++ [(path, node)]) → _) ∧ (¬ Coherent (entries ++ [(path, node)]) → _)
  have fresh := (distinct_concat_iff.mp distinct).2
  have step : Coherent (entries ++ [(path, node)]) ↔ _ := coherent_concat_iff loaded fresh
  have whole : vfs.load (key, node) = vfs.define path node >>= (linkUpward · path.reverse) := rfl
  rw [step, whole]
  refine ⟨fun ⟨_, unfiled, free⟩ => ?_, fun conflict => ?_⟩
  · -- The entry is put at its path, and only the directories above are touched after that.
    obtain ⟨put, defined, here⟩ := exists_define loaded fresh unfiled
    obtain ⟨after, linked, lookup⟩ := exists_linkUpward ((blocked_insert_iff put).not.mpr free)
    rw [defined]
    refine ⟨after, linked, fun other => ?_⟩
    rw [lookup, linkedNode]
    by_cases same : other = path
    · subst same
      have beside : path.toward path = none := Path.toward_eq_none_iff.mpr fun both => both.2 rfl
      rw [beside, getElem?_insert, if_pos rfl]
      exact here
    · rw [listedAt, getElem?_insert, if_neg (Ne.symm same)]
      cases above : other.toward path with
      | none =>
        refine (loaded other).beside fun within => ?_
        exact Path.toward_eq_none_iff.mp above ⟨within, same⟩
      | some name => exact .above loaded free above
  · by_cases unfiled : ∀ content, node = .file content → path ∉ vfs.nodes
    · have blocked : Blocked vfs path := by
        by_contra free
        exact conflict ⟨coherent, unfiled, free⟩
      obtain ⟨put, defined, _⟩ := exists_define loaded fresh unfiled
      obtain ⟨breach, failed⟩ := exists_linkUpward_error ((blocked_insert_iff put).mpr blocked)
      rw [defined]
      exact ⟨breach, failed⟩
    · simp only [not_forall, not_not] at unfiled
      obtain ⟨content, rfl, member⟩ := unfiled
      obtain ⟨held, found⟩ := mem_nodes_iff.mp member
      rw [define_file found]
      exact ⟨.conflictingEntry path, rfl⟩

theorem foldlM_load_concat (front : List (String × Node)) (last : String × Node) :
    (front ++ [last]).foldlM load Vfs.empty = front.foldlM load Vfs.empty >>= (load · last) := by
  simp [List.foldlM_append]

/-- Entries that contradict each other nowhere are loaded, and any others are refused. -/
theorem load_outcome {texts : List (String × Node)} (distinct : Distinct (texts.map located)) :
    (Coherent (texts.map located) → ∃ vfs, texts.foldlM load Vfs.empty = .ok vfs ∧
      Loaded (texts.map located) vfs) ∧
    (¬ Coherent (texts.map located) → ∃ breach, texts.foldlM load Vfs.empty = .error breach) := by
  induction texts using List.reverseRecOn with
  | nil =>
    refine ⟨fun _ => ⟨Vfs.empty, rfl, loaded_empty⟩, fun conflict => ?_⟩
    exact absurd ⟨by simp, by simp⟩ conflict
  | append_singleton front last ih =>
    rw [List.map_append, List.map_singleton] at distinct ⊢
    obtain ⟨earlier, fresh⟩ := distinct_concat_iff.mp distinct
    rw [foldlM_load_concat]
    by_cases coherent : Coherent (front.map located)
    · obtain ⟨vfs, done, loaded⟩ := (ih earlier).1 coherent
      rw [done]
      exact load_next distinct coherent loaded
    · obtain ⟨breach, failed⟩ := (ih earlier).2 coherent
      rw [failed]
      refine ⟨fun whole => absurd ?_ coherent, fun _ => ⟨breach, rfl⟩⟩
      exact ⟨fun content member => whole.root content (List.mem_append_left _ member),
        fun file other => whole.leaves (List.mem_append_left _ file) (List.mem_append_left _ other)⟩

end loading

end Vfs
end LessonShell

import LessonShell.Proofs.Tables
import LessonShell.Terminal
import Mathlib.Data.List.Induction

/-! Registries, whatever was registered in them and in whichever order. The last registration under
a name counts, a custom one before a built-in; the two listings show every name that is found once,
in the order of the names, and do not depend on the order in which a table hands out its entries. -/
namespace LessonShell
variable {C : Type}

/-- What a command is shown as in a listing. -/
def Command.shown (command : Command C) : String × String := (command.name, command.description)

/-- The last of these commands whose name in small letters is this one. -/
def Command.lastNamed? (commands : List (Command C)) (name : String) : Option (Command C) :=
  (commands.filter (·.key = name)).getLast?

theorem Command.lastNamed?_concat (commands : List (Command C)) (command : Command C) (name : String) :
    lastNamed? (commands ++ [command]) name =
      if command.key = name then some command else lastNamed? commands name := by
  rw [lastNamed?, List.filter_append]
  split
  · next same => simp [same]
  · next other => simp [other, lastNamed?]

theorem Command.mem_of_lastNamed? {commands : List (Command C)} {name : String} {command : Command C}
    (found : lastNamed? commands name = some command) : command ∈ commands ∧ command.key = name := by
  have member := List.mem_filter.mp (List.mem_of_getLast? found)
  exact ⟨member.1, of_decide_eq_true member.2⟩

theorem Command.lastNamed?_isSome_iff {commands : List (Command C)} {name : String} :
    (lastNamed? commands name).isSome = true ↔ ∃ command ∈ commands, command.key = name := by
  rw [lastNamed?, List.getLast?_isSome, ne_eq, List.filter_eq_nil_iff]
  simp

theorem Command.lastNamed?_of_mem {commands : List (Command C)} {command : Command C}
    (distinct : (commands.map Command.key).Nodup) (member : command ∈ commands) :
    lastNamed? commands command.key = some command := by
  obtain ⟨last, found⟩ := Option.isSome_iff_exists.mp (lastNamed?_isSome_iff.mpr ⟨command, member, rfl⟩)
  obtain ⟨listed, key⟩ := mem_of_lastNamed? found
  rw [found, List.inj_on_of_nodup_map distinct listed member key]

/-- One call that adds a command: a built-in, a custom one, or a custom one made from a function. -/
inductive Registration (C : Type) where
  | builtin (command : Command C)
  | custom (command : Command C)
  | handler (name description : String) (run : List String → Program (Dialogue C) CommandOutput)

namespace Registration

def apply (registry : Registry C) : Registration C → Registry C
  | .builtin command => registry.register command
  | .custom command => registry.registerCustom command
  | .handler name description run => registry.registerCustom (.ofHandler name description run)

def builtin? : Registration C → Option (Command C)
  | .builtin command => some command
  | _ => none

def custom? : Registration C → Option (Command C)
  | .builtin _ => none
  | .custom command => some command
  | .handler name description run => some (.ofHandler name description run)

end Registration

namespace CommandTable
variable {table : CommandTable C}

/-- Every command stands under its own key. -/
def Keyed (table : CommandTable C) : Prop :=
  ∀ (key : String) (command : Command C), table[key]? = some command → command.key = key

/-- A listing as it is made from the entries of a table in some order: sorted by name. -/
def sortedListing (entries : List (String × Command C)) : List (String × String) :=
  (entries.map fun entry => entry.2.shown).mergeSort fun first second => decide (first.1 ≤ second.1)

theorem Keyed.filter (keyed : Keyed table) (keep : String → Command C → Bool) :
    Keyed (Std.ExtTreeMap.filter keep table) := by
  intro key command found
  rw [Std.ExtTreeMap.getElem?_filter] at found
  exact keyed key command (Option.eq_some_of_pfilter_eq_some found)

theorem Keyed.distinct (keyed : Keyed table) :
    ((table.toList.map fun entry => entry.2.shown).map Prod.fst).Nodup := by
  have folded : (table.toList.map fun entry => entry.2.shown).map (Text.foldCase ·.1) =
      table.toList.map Prod.fst := by
    rw [List.map_map]
    refine List.map_congr_left fun entry member => ?_
    exact keyed _ _ (Std.ExtTreeMap.mem_toList_iff_getElem?_eq_some.mp member)
  have keys := Table.nodup_keys_toList table
  rw [← folded] at keys
  refine List.Nodup.of_map Text.foldCase ?_
  rwa [List.map_map]

theorem Keyed.listing_perm (keyed : Keyed table) :
    table.listing.Perm (table.toList.map fun entry => entry.2.shown) :=
  Table.toList_ofList_perm keyed.distinct

theorem listing_increasing (table : CommandTable C) :
    table.listing.Pairwise fun first second => first.1 < second.1 := by
  refine List.Pairwise.imp ?_ Std.ExtTreeMap.ordered_keys_toList
  exact fun less => compareOfLessAndEq_eq_lt.mp less

theorem Keyed.mem_listing_iff (keyed : Keyed table) {item : String × String} :
    item ∈ table.listing ↔
      ∃ command, table[Text.foldCase item.1]? = some command ∧ command.shown = item := by
  rw [keyed.listing_perm.mem_iff, List.mem_map]
  constructor
  · rintro ⟨⟨key, command⟩, member, rfl⟩
    have found := Std.ExtTreeMap.mem_toList_iff_getElem?_eq_some.mp member
    have same : Text.foldCase command.name = key := keyed _ _ found
    exact ⟨command, same ▸ found, rfl⟩
  · rintro ⟨command, found, shown⟩
    exact ⟨(_, command), Std.ExtTreeMap.mem_toList_iff_getElem?_eq_some.mpr found, shown⟩

theorem listing_nodup (table : CommandTable C) : table.listing.Nodup := by
  refine (listing_increasing table).imp fun {first second} less same => ?_
  rw [same] at less
  exact String.lt_irrefl _ less

/-- A name that is found is shown once, and as the command that is found under it. -/
theorem Keyed.listing_filter (keyed : Keyed table) (name : String) :
    table.listing.filter (Text.foldCase ·.1 = name) = (table[name]?.map Command.shown).toList := by
  cases found : table[name]? with
  | none =>
    refine List.filter_eq_nil_iff.mpr fun item member named => ?_
    obtain ⟨command, present, _⟩ := keyed.mem_listing_iff.mp member
    rw [of_decide_eq_true named, found] at present
    cases present
  | some command =>
    refine List.perm_singleton.mp ?_
    refine (List.perm_ext_iff_of_nodup ((listing_nodup table).filter _) (List.nodup_singleton _)).mpr ?_
    intro item
    rw [List.mem_filter, keyed.mem_listing_iff, decide_eq_true_eq, List.mem_singleton]
    constructor
    · rintro ⟨⟨other, present, rfl⟩, named⟩
      rw [named, found] at present
      rw [Option.some.inj present]
    · rintro rfl
      have key : Text.foldCase command.shown.1 = name := keyed _ _ found
      exact ⟨⟨command, key.symm ▸ found, rfl⟩, key⟩

/-- In whichever order a table hands out its entries, sorting them by name gives the listing. -/
theorem Keyed.sortedListing_eq (keyed : Keyed table) {entries : List (String × Command C)}
    (arranged : entries.Perm table.toList) : sortedListing entries = table.listing := by
  have sorted : (sortedListing entries).Pairwise fun first second => first.1 ≤ second.1 := by
    refine (List.pairwise_mergeSort ?_ ?_ _).imp of_decide_eq_true
    · intro first second third early late
      exact decide_eq_true (String.le_trans (of_decide_eq_true early) (of_decide_eq_true late))
    · intro first second
      simpa using String.le_total first.1 second.1
  have permuted : (sortedListing entries).Perm table.listing :=
    (List.mergeSort_perm _ _).trans ((arranged.map _).trans keyed.listing_perm.symm)
  refine permuted.eq_of_pairwise ?_ sorted ((listing_increasing table).imp fun less => ?_)
  · intro first second inside listed early late
    obtain ⟨command, found, rfl⟩ := keyed.mem_listing_iff.mp (permuted.mem_iff.mp inside)
    obtain ⟨other, present, rfl⟩ := keyed.mem_listing_iff.mp listed
    rw [String.le_antisymm early late, present] at found
    rw [Option.some.inj found]
  · exact Std.le_of_not_ge (String.not_le.mpr less)

end CommandTable

namespace Registry

/-- The registry that these calls make of an empty one. -/
def registered (calls : List (Registration C)) : Registry C := calls.foldl Registration.apply empty

theorem registered_concat (calls : List (Registration C)) (call : Registration C) :
    registered (calls ++ [call]) = call.apply (registered calls) := by
  rw [registered, List.foldl_append]
  rfl

theorem register_builtins (registry : Registry C) (command : Command C) (name : String) :
    (registry.register command).builtins[name]? =
      if command.key = name then some command else registry.builtins[name]? := by
  simp [register, Std.ExtTreeMap.getElem?_insert]

theorem registerCustom_custom (registry : Registry C) (command : Command C) (name : String) :
    (registry.registerCustom command).custom[name]? =
      if command.key = name then some command else registry.custom[name]? := by
  simp [registerCustom, Std.ExtTreeMap.getElem?_insert]

theorem registerCustom_find? (registry : Registry C) (command : Command C) (name : String) :
    (registry.registerCustom command).find? name =
      if command.key = name then some command else registry.find? name := by
  rw [find?, registerCustom_custom]
  split <;> rfl

theorem registered_builtins (calls : List (Registration C)) (name : String) :
    (registered calls).builtins[name]? =
      Command.lastNamed? (calls.filterMap Registration.builtin?) name := by
  induction calls using List.reverseRecOn with
  | nil => simp [registered, empty, Command.lastNamed?]
  | append_singleton early last ih =>
    rw [registered_concat, List.filterMap_append]
    cases last with
    | builtin command =>
      refine (register_builtins _ command name).trans ?_
      rw [ih]
      exact (Command.lastNamed?_concat _ command name).symm
    | custom command => exact ih.trans (congrArg (Command.lastNamed? · name) (List.append_nil _).symm)
    | handler title description run =>
      exact ih.trans (congrArg (Command.lastNamed? · name) (List.append_nil _).symm)

theorem registered_custom (calls : List (Registration C)) (name : String) :
    (registered calls).custom[name]? =
      Command.lastNamed? (calls.filterMap Registration.custom?) name := by
  induction calls using List.reverseRecOn with
  | nil => simp [registered, empty, Command.lastNamed?]
  | append_singleton early last ih =>
    rw [registered_concat, List.filterMap_append]
    cases last with
    | builtin command => exact ih.trans (congrArg (Command.lastNamed? · name) (List.append_nil _).symm)
    | custom command =>
      refine (registerCustom_custom _ command name).trans ?_
      rw [ih]
      exact (Command.lastNamed?_concat _ command name).symm
    | handler title description run =>
      refine (registerCustom_custom _ (.ofHandler title description run) name).trans ?_
      rw [ih]
      exact (Command.lastNamed?_concat _ _ name).symm

theorem registered_find? (calls : List (Registration C)) (name : String) :
    (registered calls).find? name =
      (Command.lastNamed? (calls.filterMap Registration.custom?) name).or
        (Command.lastNamed? (calls.filterMap Registration.builtin?) name) := by
  rw [find?, registered_custom, registered_builtins]

theorem isCustom_eq (registry : Registry C) (name : String) :
    registry.isCustom name = registry.custom[name]?.isSome :=
  Std.ExtTreeMap.contains_eq_isSome_getElem?

theorem registered_isCustom_iff (calls : List (Registration C)) (name : String) :
    (registered calls).isCustom name = true ↔
      ∃ command ∈ calls.filterMap Registration.custom?, command.key = name := by
  rw [isCustom_eq, registered_custom, Command.lastNamed?_isSome_iff]

/-- Both tables hold every command under its own key. -/
structure Keyed (registry : Registry C) : Prop where
  builtins : registry.builtins.Keyed
  custom : registry.custom.Keyed

theorem registered_keyed (calls : List (Registration C)) : (registered calls).Keyed := by
  refine ⟨?_, ?_⟩
  · intro key command found
    rw [registered_builtins] at found
    exact (Command.mem_of_lastNamed? found).2
  · intro key command found
    rw [registered_custom] at found
    exact (Command.mem_of_lastNamed? found).2

/-- What the two listings of a registry show. Their names increase, whatever the order in which the
tables hand out their entries; and a name that is found stands in one of them, once and as the
command that is found, among the custom ones exactly if a custom command has it. -/
structure Listed (registry : Registry C) : Prop where
  builtinsIncrease : registry.listBuiltins.Pairwise fun first second => first.1 < second.1
  customIncrease : registry.listCustom.Pairwise fun first second => first.1 < second.1
  builtinsArranged : ∀ entries : List (String × Command C), entries.Perm registry.builtins.toList →
    CommandTable.sortedListing (entries.filter fun entry => !registry.isCustom entry.1) =
      registry.listBuiltins
  customArranged : ∀ entries : List (String × Command C), entries.Perm registry.custom.toList →
    CommandTable.sortedListing entries = registry.listCustom
  builtinsShow : ∀ name, registry.listBuiltins.filter (Text.foldCase ·.1 = name) =
    if registry.isCustom name then [] else ((registry.find? name).map Command.shown).toList
  customShow : ∀ name, registry.listCustom.filter (Text.foldCase ·.1 = name) =
    if registry.isCustom name then ((registry.find? name).map Command.shown).toList else []

theorem Keyed.listed {registry : Registry C} (keyed : registry.Keyed) : registry.Listed where
  builtinsIncrease := CommandTable.listing_increasing _
  customIncrease := CommandTable.listing_increasing _
  builtinsArranged entries arranged := by
    apply (keyed.builtins.filter _).sortedListing_eq
    rw [Std.ExtTreeMap.toList_filter]
    exact arranged.filter _
  customArranged entries arranged := keyed.custom.sortedListing_eq arranged
  builtinsShow name := by
    refine ((keyed.builtins.filter _).listing_filter name).trans ?_
    rw [Std.ExtTreeMap.getElem?_filter', find?, isCustom_eq, Std.ExtTreeMap.contains_eq_isSome_getElem?]
    cases registry.custom[name]? <;> cases registry.builtins[name]? <;> simp
  customShow name := by
    refine (keyed.custom.listing_filter name).trans ?_
    rw [isCustom_eq, find?]
    cases registry.custom[name]? <;> simp

end Registry
end LessonShell

import Mathlib.Data.List.Nodup
import Std.Data.ExtTreeMap

/-! Tables made from lists of entries. Where no key is given twice a table holds exactly these
entries. -/
namespace LessonShell.Table
variable {Key Value : Type} {order : Key → Key → Ordering} {entries : List (Key × Value)}

variable [Std.TransCmp order]

theorem nodup_keys_toList (table : Std.ExtTreeMap Key Value order) :
    (table.toList.map Prod.fst).Nodup := by
  rw [List.Nodup, List.pairwise_map]
  refine Std.ExtTreeMap.ordered_keys_toList.imp fun less same => ?_
  simp [same, Std.ReflCmp.compare_self] at less

variable [Std.LawfulEqCmp order] [DecidableEq Key]

theorem getElem?_ofList_iff (distinct : (entries.map Prod.fst).Nodup) {key : Key} {value : Value} :
    (Std.ExtTreeMap.ofList entries order)[key]? = some value ↔ (key, value) ∈ entries := by
  have apart : entries.Pairwise fun first second => ¬ order first.1 second.1 = .eq := by
    rw [List.Nodup, List.pairwise_map] at distinct
    exact distinct.imp fun differs same => differs (Std.LawfulEqCmp.eq_of_compare same)
  have lookup {held : Value} (member : (key, held) ∈ entries) :=
    Std.ExtTreeMap.getElem?_ofList_of_mem Std.ReflCmp.compare_self apart member
  constructor
  · intro found
    have member : key ∈ Std.ExtTreeMap.ofList entries order := by
      simp [Std.ExtTreeMap.mem_iff_isSome_getElem?, found]
    rw [Std.ExtTreeMap.mem_ofList, List.contains_iff_mem] at member
    obtain ⟨⟨_, held⟩, inside, rfl⟩ := List.mem_map.mp member
    rw [lookup inside] at found
    exact Option.some.inj found ▸ inside
  · exact lookup

theorem toList_ofList_perm (distinct : (entries.map Prod.fst).Nodup) :
    (Std.ExtTreeMap.ofList entries order).toList.Perm entries := by
  refine (List.perm_ext_iff_of_nodup (nodup_keys_toList _).of_map distinct.of_map).mpr fun (key, value) => ?_
  rw [Std.ExtTreeMap.mem_toList_iff_getElem?_eq_some, getElem?_ofList_iff distinct]

end LessonShell.Table

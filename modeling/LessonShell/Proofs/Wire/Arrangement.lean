import Mathlib.Data.List.Forall2
import Mathlib.Data.List.Nodup
import Mathlib.Data.Option.Basic
import LessonShell.Proofs.Vfs.Consistent
import LessonShell.Wire.Lesson
import LessonShell.Wire.Transcript

/-! Wire values that differ only in the order in which objects list their fields. The
decoders look fields up by name and cannot tell such values apart. -/
namespace LessonShell
namespace Json
variable {α β : Type}

/-- The same value up to the order of the fields in every object. -/
inductive Alike : Json → Json → Prop where
  | same (json : Json) : Alike json json
  | array {items others : List Json} (each : List.Forall₂ Alike items others) :
    Alike (.array items) (.array others)
  | object {fields others : Fields} (distinct : (fields.map Prod.fst).Nodup)
    (others_distinct : (others.map Prod.fst).Nodup)
    (each : ∀ name, Option.Rel Alike (fields.lookup name) (others.lookup name)) :
    Alike (.object fields) (.object others)

/-- Alike values are read to the same result. -/
def Respects (decode : Json → Option α) : Prop :=
  ∀ {json other : Json}, Alike json other → decode json = decode other

/-- Every arrangement of an encoding is read back as the value that was encoded, so
different values never have alike encodings. -/
structure Faithful (encode : α → Json) (decode : Json → Option α) : Prop where
  read_back : ∀ value, decode (encode value) = some value
  any_order : ∀ value json, Alike (encode value) json → decode json = some value
  distinct : ∀ value other, Alike (encode value) (encode other) → value = other

theorem Faithful.of_respects {encode : α → Json} {decode : Json → Option α}
    (respects : Respects decode) (read_back : ∀ value, decode (encode value) = some value) :
    Faithful encode decode where
  read_back := read_back
  any_order value json alike := by rw [← respects alike, read_back]
  distinct value other alike := by
    have same : some value = some other := by rw [← read_back, ← read_back, respects alike]
    exact Option.some.inj same

theorem text?_respects : Respects text? := fun alike => by cases alike <;> rfl

theorem bool?_respects : Respects bool? := fun alike => by cases alike <;> rfl

theorem word?_respects : Respects word? := fun alike => by cases alike <;> rfl

theorem list?_respects {decode : Json → Option α} (respects : Respects decode) :
    Respects (list? decode) := fun alike => by
  cases alike with
  | same => rfl
  | object => rfl
  | array each =>
    simp only [list?]
    induction each with
    | nil => rfl
    | cons alike _ ih => simp only [List.mapM_cons, respects alike, ih]

theorem nullable?_respects {decode : Json → Option α} (respects : Respects decode) :
    Respects (nullable? decode) := fun alike => by
  cases alike with
  | same => rfl
  | array each => exact congrArg (Option.map some) (respects (.array each))
  | object distinct others_distinct each =>
    exact congrArg (Option.map some) (respects (.object distinct others_distinct each))

theorem mapM_eq_some_iff {decode : α → Option β} {items : List α} {values : List β} :
    items.mapM decode = some values ↔ List.Forall₂ (decode · = some ·) items values := by
  induction items generalizing values with
  | nil => cases values <;> simp
  | cons item items ih =>
    rw [List.mapM_cons, List.forall₂_cons_left_iff]
    simp [Option.bind_eq_some_iff, ih, eq_comm (a := values)]

theorem exists_mapM_eq_some {decode : α → Option β} {items : List α}
    (readable : ∀ item ∈ items, ∃ value, decode item = some value) :
    ∃ values, items.mapM decode = some values := by
  induction items with
  | nil => exact ⟨[], rfl⟩
  | cons item items ih =>
    obtain ⟨value, head⟩ := readable item List.mem_cons_self
    obtain ⟨values, tail⟩ := ih fun other member => readable other (List.mem_cons_of_mem _ member)
    exact ⟨value :: values, by simp [List.mapM_cons, head, tail]⟩

/-- Fields with the same names, in any order, whose values are alike. -/
def Fields.Alike (fields others : Fields) : Prop :=
  ∀ name, Option.Rel Json.Alike (fields.lookup name) (others.lookup name)

theorem respects_of_fields {read : Fields → Option α}
    (same : ∀ {fields others : Fields}, fields.Alike others → read fields = read others) :
    Respects fun json => json.fields?.bind read := fun alike => by
  cases alike with
  | same => rfl
  | array => rfl
  | object _ _ each => exact same each

namespace Fields
variable {fields others : Fields} {decode : Json → Option α}

theorem Alike.congr (each : fields.Alike others) (name : String) (result : Option Json → β)
    (present : ∀ {value twin : Json}, Json.Alike value twin → result (some value) = result (some twin)) :
    result (fields.lookup name) = result (others.lookup name) := by
  have values := each name
  generalize fields.lookup name = value, others.lookup name = twin at values ⊢
  cases values with
  | none => rfl
  | some alike => exact present alike

theorem required_alike (each : fields.Alike others) (respects : Respects decode) (name : String) :
    required fields name decode = required others name decode :=
  each.congr name (·.bind decode) fun alike => respects alike

theorem defaulted_eq (fields : Fields) (name : String) (fallback : α) (decode : Json → Option α) :
    defaulted fields name fallback decode = (fields.lookup name).elim (some fallback) decode := by
  rw [defaulted]
  cases fields.lookup name <;> rfl

theorem defaulted_alike (each : fields.Alike others) (respects : Respects decode) (name : String)
    (fallback : α) : defaulted fields name fallback decode = defaulted others name fallback decode := by
  rw [defaulted_eq, defaulted_eq]
  exact each.congr name (·.elim (some fallback) decode) fun alike => respects alike

theorem mem_names_iff {name : String} :
    name ∈ fields.map Prod.fst ↔ (fields.lookup name).isSome = true := by
  rw [Option.isSome_iff_ne_none, ne_eq, List.lookup_eq_none_iff]
  simp

theorem Alike.mem_names_iff (each : fields.Alike others) {name : String} :
    name ∈ fields.map Prod.fst ↔ name ∈ others.map Prod.fst := by
  rw [Fields.mem_names_iff, Fields.mem_names_iff, each.congr name Option.isSome fun _ => rfl]

theorem lookup_cons (first name : String) (value : Json) (rest : Fields) :
    List.lookup name ((first, value) :: rest) = if name = first then some value else rest.lookup name := by
  by_cases here : name = first
  · rw [here, List.lookup_cons_self, if_pos rfl]
  · rw [List.lookup_cons, beq_eq_false_iff_ne.mpr here, if_neg here]

theorem lookup_eq_some_iff (distinct : (fields.map Prod.fst).Nodup) {name : String} {value : Json} :
    fields.lookup name = some value ↔ (name, value) ∈ fields := by
  induction fields with
  | nil => simp
  | cons field rest ih =>
    obtain ⟨first, held⟩ := field
    obtain ⟨fresh, distinct⟩ := List.nodup_cons.mp distinct
    rw [lookup_cons, List.mem_cons, Prod.mk.injEq]
    by_cases same : name = first
    · subst same
      have elsewhere : (name, value) ∉ rest := fun member => fresh (List.mem_map.mpr ⟨_, member, rfl⟩)
      simp [elsewhere, eq_comm]
    · rw [if_neg same, ih distinct]
      simp [same]

end Fields

end Json

open Json Json.Fields

theorem AuthMethod.respects : Respects AuthMethod.ofJson? := fun alike => by cases alike <;> rfl

theorem Event.respects : Respects Event.ofJson? := respects_of_fields fun each => by
  simp only [required_alike each text?_respects, required_alike each (list?_respects text?_respects),
    required_alike each AuthMethod.respects]

theorem Criterion.respects : Respects Criterion.ofJson? := respects_of_fields fun each => by
  simp only [required_alike each text?_respects, required_alike each (list?_respects text?_respects),
    defaulted_alike each (nullable?_respects text?_respects),
    defaulted_alike each (nullable?_respects AuthMethod.respects)]

theorem Node.respects : Respects Node.ofJson? := respects_of_fields fun each => by
  simp only [required_alike each text?_respects, defaulted_alike each text?_respects,
    defaulted_alike each (list?_respects text?_respects)]

theorem Style.respects : Respects Style.ofJson? := fun alike => by cases alike <;> rfl

theorem Role.respects : Respects Role.ofJson? := respects_of_fields fun each => by
  simp only [required_alike each text?_respects]

theorem Entry.respects : Respects Entry.ofJson? := respects_of_fields fun each => by
  simp only [required_alike each text?_respects, required_alike each Role.respects,
    required_alike each Style.respects]

theorem Account.respects : Respects Account.ofJson? := respects_of_fields fun each => by
  simp only [required_alike each text?_respects,
    defaulted_alike each (nullable?_respects text?_respects)]

theorem MissionSpec.respects : Respects MissionSpec.ofJson? := respects_of_fields fun each => by
  simp only [required_alike each text?_respects, required_alike each Criterion.respects]

theorem Target.respects : Respects Target.ofJson? := respects_of_fields fun each => by
  simp only [defaulted_alike each text?_respects, defaulted_alike each word?_respects,
    defaulted_alike each bool?_respects, defaulted_alike each (list?_respects Account.respects)]

namespace Snapshot
variable {fields : Json.Fields} {snapshot : Snapshot}

private theorem mem_entries_iff {entries : List (String × Node)}
    (read : List.Forall₂ (fun field entry => (Node.ofJson? field.2).map (field.1, ·) = some entry) fields entries) :
    entries.map Prod.fst = fields.map Prod.fst ∧ ∀ path node,
      (path, node) ∈ entries ↔ ∃ value, (path, value) ∈ fields ∧ Node.ofJson? value = some node := by
  induction read with
  | nil => simp
  | @cons field entry _ _ head _ ih =>
    obtain ⟨node, decoded, rfl⟩ := Option.map_eq_some_iff.mp head
    refine ⟨by simp [ih.1], fun path held => ?_⟩
    simp only [List.mem_cons, ih.2, Prod.ext_iff]
    constructor
    · rintro (⟨rfl, rfl⟩ | ⟨value, member, found⟩)
      · exact ⟨field.2, .inl ⟨rfl, rfl⟩, decoded⟩
      · exact ⟨value, .inr member, found⟩
    · rintro ⟨value, ⟨rfl, rfl⟩ | member, found⟩
      · exact .inl ⟨rfl, Option.some.inj (found.symm.trans decoded)⟩
      · exact .inr ⟨value, member, found⟩

theorem holds_of_ofJson? (distinct : (fields.map Prod.fst).Nodup)
    (read : ofJson? (.object fields) = some snapshot) (path : String) :
    snapshot[path]? = required fields path Node.ofJson? ∧ (path ∈ fields.map Prod.fst → path ∈ snapshot) := by
  obtain ⟨entries, decoded, same⟩ := Option.bind_eq_some_iff.mp read
  obtain rfl := Option.some.inj same
  obtain ⟨names, members⟩ := mem_entries_iff (mapM_eq_some_iff.mp decoded)
  constructor
  · refine Option.ext fun node => ?_
    rw [Table.getElem?_ofList_iff (names ▸ distinct), members, required, Option.bind_eq_some_iff]
    simp only [lookup_eq_some_iff distinct]
  · rw [Std.ExtTreeMap.mem_ofList, List.contains_iff_mem, names]
    exact id

/-- A snapshot is read when each of its nodes is, and then holds what each name has. -/
theorem ofJson?_object_iff (distinct : (fields.map Prod.fst).Nodup) :
    ofJson? (.object fields) = some snapshot ↔ ∀ path,
      snapshot[path]? = required fields path Node.ofJson? ∧ (path ∈ fields.map Prod.fst → path ∈ snapshot) := by
  refine ⟨holds_of_ofJson? distinct, fun described => ?_⟩
  have readable : ∀ field ∈ fields, ∃ entry, (Node.ofJson? field.2).map (field.1, ·) = some entry := by
    intro field member
    have present := (described field.1).2 (List.mem_map.mpr ⟨field, member, rfl⟩)
    rw [Std.ExtTreeMap.mem_iff_isSome_getElem?, (described field.1).1, required,
      (lookup_eq_some_iff distinct).mpr member] at present
    obtain ⟨node, found⟩ := Option.isSome_iff_exists.mp present
    exact ⟨(field.1, node), Option.map_eq_some_iff.mpr ⟨node, found, rfl⟩⟩
  obtain ⟨entries, decoded⟩ := exists_mapM_eq_some readable
  have read : ofJson? (.object fields) = some (.ofList entries) :=
    Option.bind_eq_some_iff.mpr ⟨entries, decoded, rfl⟩
  rw [read]
  refine congrArg some (Std.ExtTreeMap.ext_getElem? fun path => ?_)
  rw [(holds_of_ofJson? distinct read path).1, (described path).1]

theorem respects : Respects ofJson? := fun alike => by
  cases alike with
  | same => rfl
  | array => rfl
  | object distinct others_distinct each =>
    refine Option.ext fun snapshot => ?_
    rw [ofJson?_object_iff distinct, ofJson?_object_iff others_distinct]
    refine forall_congr' fun path => ?_
    rw [required_alike each Node.respects, Alike.mem_names_iff each]

end Snapshot

theorem Lesson.respects : Respects Lesson.ofJson? := respects_of_fields fun each => by
  simp only [defaulted_alike each text?_respects, defaulted_alike each (list?_respects text?_respects),
    defaulted_alike each Target.respects, defaulted_alike each Snapshot.respects,
    defaulted_alike each (list?_respects MissionSpec.respects)]

end LessonShell

import LessonShell.Proofs.Wire.Arrangement

/-! Every value is read back from its wire form, which tells it from all other values. -/
namespace LessonShell
open Json Json.Fields

namespace Json
variable {α : Type}

theorem list?_array {encode : α → Json} {decode : Json → Option α}
    (read_back : ∀ value, decode (encode value) = some value) (values : List α) :
    list? decode (.array (values.map encode)) = some values := by
  rw [list?, mapM_eq_some_iff, List.forall₂_map_left_iff, List.forall₂_same]
  exact fun value _ => read_back value

@[simp] theorem fields?_object (fields : Fields) : (object fields).fields? = some fields := rfl

@[simp] theorem text?_text (value : String) : text? (.text value) = some value := rfl

@[simp] theorem bool?_bool (value : Bool) : bool? (.bool value) = some value := rfl

@[simp] theorem word?_toNat (word : UInt16) : word? (.integer word.toNat) = some word := by
  have bounded := word.toNat_lt
  rw [word?, if_pos (by omega)]
  simp

@[simp] theorem list?_texts (values : List String) : list? text? (texts values) = some values :=
  @list?_array String .text text? (fun _ => rfl) values

@[simp] theorem nullable?_textOrNull (value : Option String) :
    nullable? text? (textOrNull value) = some value := by
  cases value <;> rfl

namespace Fields
variable (first name : String) (value : Json) (rest : Fields) (fallback : α) (decode : Json → Option α)

@[simp] theorem required_cons : required ((first, value) :: rest) name decode =
    if name = first then decode value else required rest name decode := by
  rw [required, lookup_cons]
  split <;> rfl

@[simp] theorem defaulted_cons : defaulted ((first, value) :: rest) name fallback decode =
    if name = first then decode value else defaulted rest name fallback decode := by
  rw [defaulted_eq, defaulted_eq, lookup_cons]
  split <;> rfl

end Fields
end Json

@[simp] theorem AuthMethod.read_back (method : AuthMethod) : ofJson? method.toJson = some method := by
  cases method <;> rfl

@[simp] theorem Event.read_back (event : Event) : ofJson? event.toJson = some event := by
  cases event <;> simp [toJson, ofJson?]

@[simp] theorem Criterion.nullable?_methodOrNull (method : Option AuthMethod) :
    nullable? AuthMethod.ofJson? (methodOrNull method) = some method := by
  rcases method with _ | _ | _ <;> rfl

@[simp] theorem Criterion.read_back (criterion : Criterion) : ofJson? criterion.toJson = some criterion := by
  cases criterion <;> simp [toJson, ofJson?]

@[simp] theorem Node.read_back (node : Node) : ofJson? node.toJson = some node := by
  cases node <;> simp [toJson, ofJson?]

@[simp] theorem Style.read_back (style : Style) : ofJson? style.toJson = some style := by
  cases style <;> rfl

@[simp] theorem Role.read_back (role : Role) : ofJson? role.toJson = some role := by
  cases role <;> simp [toJson, ofJson?]

@[simp] theorem Entry.read_back (entry : Entry) : ofJson? entry.toJson = some entry := by
  simp [toJson, ofJson?]

@[simp] theorem Account.read_back (account : Account) : ofJson? account.toJson = some account := by
  simp [toJson, ofJson?]

@[simp] theorem MissionSpec.read_back (mission : MissionSpec) : ofJson? mission.toJson = some mission := by
  simp [toJson, ofJson?]

@[simp] theorem Snapshot.read_back (snapshot : Snapshot) : ofJson? snapshot.toJson = some snapshot := by
  have names : (snapshot.toList.map fun entry => (entry.1, entry.2.toJson)).map Prod.fst = snapshot.keys := by
    rw [List.map_map, ← Std.ExtTreeMap.map_fst_toList_eq_keys]
    rfl
  have distinct := names ▸ Std.ExtTreeMap.nodup_keys
  refine (ofJson?_object_iff distinct).mpr fun path => ⟨Option.ext fun node => ?_, fun member => ?_⟩
  · rw [required, Option.bind_eq_some_iff]
    simp only [lookup_eq_some_iff distinct]
    rw [← Std.ExtTreeMap.mem_toList_iff_getElem?_eq_some]
    constructor
    · intro member
      exact ⟨node.toJson, List.mem_map.mpr ⟨_, member, rfl⟩, node.read_back⟩
    · rintro ⟨value, member, read⟩
      obtain ⟨⟨key, held⟩, inside, same⟩ := List.mem_map.mp member
      obtain ⟨rfl, rfl⟩ := Prod.mk.inj same
      rw [held.read_back, Option.some.injEq] at read
      exact read ▸ inside
  · rwa [names, Std.ExtTreeMap.mem_keys] at member

theorem Event.type_field (event : Event) :
    ∃ fields, event.toJson = .object fields ∧ fields.lookup "type" = some (.text event.kind) := by
  cases event <;> exact ⟨_, rfl, rfl⟩

/-- The wire forms are faithful, whatever the order of fields, and the `type` of an event
is its kind. -/
theorem wire_forms_faithful :
    Faithful Event.toJson Event.ofJson? ∧
    Faithful AuthMethod.toJson AuthMethod.ofJson? ∧
    Faithful Criterion.toJson Criterion.ofJson? ∧
    Faithful Node.toJson Node.ofJson? ∧
    Faithful Style.toJson Style.ofJson? ∧
    Faithful Role.toJson Role.ofJson? ∧
    Faithful Entry.toJson Entry.ofJson? ∧
    Faithful Account.toJson Account.ofJson? ∧
    Faithful MissionSpec.toJson MissionSpec.ofJson? ∧
    ∀ event : Event, ∃ fields,
      event.toJson = .object fields ∧ fields.lookup "type" = some (.text event.kind) :=
  ⟨.of_respects Event.respects Event.read_back,
    .of_respects AuthMethod.respects AuthMethod.read_back,
    .of_respects Criterion.respects Criterion.read_back,
    .of_respects Node.respects Node.read_back,
    .of_respects Style.respects Style.read_back,
    .of_respects Role.respects Role.read_back,
    .of_respects Entry.respects Entry.read_back,
    .of_respects Account.respects Account.read_back,
    .of_respects MissionSpec.respects MissionSpec.read_back,
    Event.type_field⟩

end LessonShell

import LessonShell.Proofs.Wire.Forms

/-! Lessons whose wire form leaves fields out. Each field of a lesson and of its target is
read for itself, so what is left out takes its default and nothing else changes. -/
namespace LessonShell
open Json Json.Fields

/-- What is read for a field: its value, or the default where the field is left out. -/
def unlessOmitted {α : Type} (omitted : List String) (name : String) (fallback value : α) : α :=
  if name ∈ omitted then fallback else value

@[simp] theorem unlessOmitted_nil {α : Type} (name : String) (fallback value : α) :
    unlessOmitted [] name fallback value = value := rfl

@[simp] theorem unlessOmitted_some {α : Type} (omitted : List String) (name : String) (fallback value : α) :
    unlessOmitted omitted name (some fallback) (some value) =
      some (unlessOmitted omitted name fallback value) :=
  (apply_ite some _ _ _).symm

namespace Json
variable {α : Type}

/-- An object less the fields of the given names. -/
def without (omitted : List String) : Json → Json
  | .object fields => .object (fields.filter (·.1 ∉ omitted))
  | json => json

/-- An object with the values of one name edited in place. -/
def edited (name : String) (edit : Json → Json) : Json → Json
  | .object fields =>
    .object (fields.map fun field => (field.1, if field.1 = name then edit field.2 else field.2))
  | json => json

@[simp] theorem without_object (omitted : List String) (fields : Fields) :
    (object fields).without omitted = .object (fields.filter (·.1 ∉ omitted)) := rfl

@[simp] theorem without_nil (json : Json) : json.without [] = json := by
  cases json <;> simp [without]

@[simp] theorem edited_object (name : String) (edit : Json → Json) (fields : Fields) :
    (object fields).edited name edit =
      .object (fields.map fun field => (field.1, if field.1 = name then edit field.2 else field.2)) := rfl

/-- Every arrangement of a wire value is read as the given value. -/
def ReadAs (decode : Json → Option α) (json : Json) (value : α) : Prop :=
  ∀ {other : Json}, Alike json other → decode other = some value

theorem Respects.readAs {decode : Json → Option α} (respects : Respects decode) {json : Json} {value : α}
    (read : decode json = some value) : ReadAs decode json value :=
  fun alike => respects alike ▸ read

namespace Fields
variable {fields : Fields} {name other : String} {omitted : List String}
  {decode : Json → Option α} {fallback : α} {edit : Json → Json}

theorem lookup_filter : (fields.filter (·.1 ∉ omitted)).lookup name =
    unlessOmitted omitted name none (fields.lookup name) := by
  unfold unlessOmitted
  induction fields with
  | nil => simp
  | cons field rest ih =>
    obtain ⟨first, held⟩ := field
    by_cases left_out : first ∈ omitted
    · rw [List.filter_cons_of_neg (by simpa using left_out), ih, lookup_cons]
      by_cases here : name = first
      · rw [here, if_pos left_out, if_pos left_out]
      · rw [if_neg here]
    · rw [List.filter_cons_of_pos (by simpa using left_out), lookup_cons, lookup_cons, ih]
      by_cases here : name = first
      · rw [here, if_pos rfl, if_neg left_out, if_pos rfl]
      · rw [if_neg here, if_neg here]

/-- Leaving fields out turns a read of one of them into its default and no other. -/
theorem defaulted_filter : defaulted (fields.filter (·.1 ∉ omitted)) name fallback decode =
    unlessOmitted omitted name (some fallback) (defaulted fields name fallback decode) := by
  rw [defaulted_eq, defaulted_eq, lookup_filter, unlessOmitted, unlessOmitted]
  by_cases left_out : name ∈ omitted
  · rw [if_pos left_out, if_pos left_out, Option.elim_none]
  · rw [if_neg left_out, if_neg left_out]

theorem lookup_edited :
    (fields.map fun field => (field.1, if field.1 = other then edit field.2 else field.2)).lookup name =
      (fields.lookup name).map fun value => if name = other then edit value else value := by
  induction fields with
  | nil => rfl
  | cons field rest ih =>
    obtain ⟨first, held⟩ := field
    rw [List.map_cons, lookup_cons, lookup_cons, ih]
    by_cases here : name = first
    · rw [here, if_pos rfl, if_pos rfl, Option.map_some]
    · rw [if_neg here, if_neg here]

theorem defaulted_edited :
    defaulted (fields.map fun field => (field.1, if field.1 = other then edit field.2 else field.2))
        name fallback decode =
      defaulted fields name fallback fun value => decode (if name = other then edit value else value) := by
  rw [defaulted_eq, defaulted_eq, lookup_edited]
  exact Option.elim_map ..

end Fields
end Json

namespace Target

/-- A target with the fields of the given names set back to their defaults. -/
def defaulting (target : Target) (omitted : List String) : Target where
  host := unlessOmitted omitted "host" default.host target.host
  port := unlessOmitted omitted "port" default.port target.port
  accounts := unlessOmitted omitted "accounts" default.accounts target.accounts
  openLogin := unlessOmitted omitted "open_login" default.openLogin target.openLogin
  hostKeyFingerprint :=
    unlessOmitted omitted "host_key_fingerprint" default.hostKeyFingerprint target.hostKeyFingerprint
  confirmHostKey := unlessOmitted omitted "confirm_host_key" default.confirmHostKey target.confirmHostKey
  clientAddress := unlessOmitted omitted "client_address" default.clientAddress target.clientAddress

theorem read_without (target : Target) (omitted : List String) :
    ofJson? (target.toJson.without omitted) = some (target.defaulting omitted) := by
  have accounts := list?_array Account.read_back target.accounts
  simp only [ofJson?, toJson, without_object, fields?, Option.pure_def, Option.bind_eq_bind,
    Option.bind_some, defaulted_filter]
  simp [toFields, accounts, defaulting]

end Target

namespace Lesson

/-- The wire form less some fields of the lesson and some fields of its target. -/
def abridged (lesson : Lesson) (omitted fromTarget : List String) : Json :=
  (lesson.toJson.edited "target" (·.without fromTarget)).without omitted

/-- A lesson with the fields of the given names set back to their defaults, which for the
target as a whole is the default target. -/
def defaulting (lesson : Lesson) (omitted fromTarget : List String) : Lesson where
  user := unlessOmitted omitted "user" default.user lesson.user
  host := unlessOmitted omitted "host" default.host lesson.host
  home := unlessOmitted omitted "home" default.home lesson.home
  motd := unlessOmitted omitted "motd" default.motd lesson.motd
  loginBanner := unlessOmitted omitted "login_banner" default.loginBanner lesson.loginBanner
  target := unlessOmitted omitted "target" default.target (lesson.target.defaulting fromTarget)
  filesystem := unlessOmitted omitted "filesystem" default.filesystem lesson.filesystem
  missions := unlessOmitted omitted "missions" default.missions lesson.missions

@[simp] theorem default_target : default.target = Target.default := rfl

@[simp] theorem default_missions : default.missions = [] := rfl

theorem read_abridged (lesson : Lesson) (omitted fromTarget : List String) :
    ofJson? (lesson.abridged omitted fromTarget) = some (lesson.defaulting omitted fromTarget) := by
  have missions := list?_array MissionSpec.read_back lesson.missions
  simp only [ofJson?, abridged, toJson, edited_object, without_object, fields?, Option.pure_def,
    Option.bind_eq_bind, Option.bind_some, defaulted_filter, defaulted_edited]
  simp [toFields, missions, Target.read_without, defaulting]

theorem defaulting_nil (lesson : Lesson) : lesson.defaulting [] [] = lesson := rfl

theorem abridged_nil (lesson : Lesson) : lesson.abridged [] [] = lesson.toJson := by
  simp [abridged, toJson, toFields]

/-- Fields that are left out of a lesson and of its target take their defaults, all others
are read back, and a lesson with every field is read back whole. -/
theorem omitted_fields_default (lesson : Lesson) (omitted fromTarget : List String) :
    ReadAs ofJson? (lesson.abridged omitted fromTarget) (lesson.defaulting omitted fromTarget) ∧
    lesson.abridged [] [] = lesson.toJson ∧ ReadAs ofJson? lesson.toJson lesson := by
  have whole := read_abridged lesson [] []
  rw [abridged_nil, defaulting_nil] at whole
  exact ⟨respects.readAs (read_abridged lesson omitted fromTarget), abridged_nil lesson, respects.readAs whole⟩

end Lesson
end LessonShell

/-! The wire values and the reading of their fields. A field is required, or it has a
default for its absence; `null` stands only where a field may hold nothing. -/
namespace LessonShell

/-- Numbers written without a fraction have their value; any other keeps its spelling. -/
inductive Json where
  | null
  | bool (value : Bool)
  | integer (value : Int)
  | decimal (spelling : String)
  | text (value : String)
  | array (items : List Json)
  | object (fields : List (String × Json))

namespace Json

abbrev Fields := List (String × Json)

def fields? : Json → Option Fields
  | .object fields => some fields
  | _ => none

def text? : Json → Option String
  | .text value => some value
  | _ => none

def bool? : Json → Option Bool
  | .bool value => some value
  | _ => none

def word? : Json → Option UInt16
  | .integer value =>
    if 0 ≤ value ∧ value < 65536 then some (UInt16.ofNat value.toNat) else none
  | _ => none

def list? {α : Type} (decode : Json → Option α) : Json → Option (List α)
  | .array items => items.mapM decode
  | _ => none

def nullable? {α : Type} (decode : Json → Option α) : Json → Option (Option α)
  | .null => some none
  | value => (decode value).map some

def texts (values : List String) : Json := .array (values.map .text)

def textOrNull : Option String → Json
  | some value => .text value
  | none => .null

namespace Fields
variable {α : Type}

def required (fields : Fields) (name : String) (decode : Json → Option α) : Option α :=
  (fields.lookup name).bind decode

/-- An absent field takes the default; a field that is present must be read. -/
def defaulted (fields : Fields) (name : String) (fallback : α) (decode : Json → Option α) : Option α :=
  match fields.lookup name with
  | some value => decode value
  | none => some fallback

end Fields
end Json
end LessonShell

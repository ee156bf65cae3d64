import LessonShell.Json
import LessonShell.Toml.Statement

/-! The tables that a document builds. A table is open to dotted keys only if dotted
keys made it, and a header may define a table once, also after headers below it. -/
namespace LessonShell.Toml

/-- How a table came to be: by its own header, by a longer header, or by a dotted key. -/
inductive Origin where
  | header
  | ancestor
  | dotted
  deriving DecidableEq

/-- What stands under a key while a document is read. Values are closed; an array of
tables is extended by headers, its last element also by longer ones. -/
inductive Item where
  | value (value : Json)
  | table (origin : Origin) (entries : List (String × Item))
  | tables (elements : List (List (String × Item)))

abbrev Entries := List (String × Item)

namespace Entries

def set (key : String) (item : Item) : Entries → Entries
  | [] => [(key, item)]
  | entry :: rest => if entry.1 = key then (key, item) :: rest else entry :: set key item rest

/-- Adds a value under a dotted key; `isOpen` tells whether it may be added right here. -/
def addPair (value : Json) : List String → Bool → Entries → Option Entries
  | [], _, _ => none
  | [key], isOpen, entries =>
    if isOpen ∧ (entries.lookup key).isNone then some (set key (.value value) entries) else none
  | key :: rest, _, entries =>
    match entries.lookup key with
    | none => (addPair value rest true []).map fun made => set key (.table .dotted made) entries
    | some (.table .header _) => none
    | some (.table origin found) =>
      (addPair value rest (origin = .dotted) found).map fun made => set key (.table origin made) entries
    | some (.tables elements) => do
      let made ← addPair value rest false (elements.getLastD [])
      return set key (.tables (elements.dropLast ++ [made])) entries
    | some (.value _) => none

/-- Changes the table that a header's path names, making the tables above it. -/
def editAt (edit : Entries → Option Entries) : List String → Entries → Option Entries
  | [], entries => edit entries
  | key :: rest, entries =>
    match entries.lookup key with
    | none => (editAt edit rest []).map fun made => set key (.table .ancestor made) entries
    | some (.table origin found) =>
      (editAt edit rest found).map fun made => set key (.table origin made) entries
    | some (.tables elements) => do
      let made ← editAt edit rest (elements.getLastD [])
      return set key (.tables (elements.dropLast ++ [made])) entries
    | some (.value _) => none

/-- Opens the table that a header defines; one made by longer headers keeps its entries. -/
def openTable (key : String) (entries : Entries) : Option Entries :=
  match entries.lookup key with
  | none => some (set key (.table .header []) entries)
  | some (.table .ancestor found) => some (set key (.table .header found) entries)
  | some _ => none

def openElement (key : String) (entries : Entries) : Option Entries :=
  match entries.lookup key with
  | none => some (set key (.tables [[]]) entries)
  | some (.tables elements) => some (set key (.tables (elements ++ [[]])) entries)
  | some _ => none

end Entries

mutual

def Item.toJson : Item → Json
  | .value value => value
  | .table _ entries => .object (entriesJson entries)
  | .tables elements => .array (elementsJson elements)

def entriesJson : List (String × Item) → Json.Fields
  | [] => []
  | (key, item) :: rest => (key, item.toJson) :: entriesJson rest

def elementsJson : List (List (String × Item)) → List Json
  | [] => []
  | entries :: rest => .object (entriesJson entries) :: elementsJson rest

end

mutual

/-- The wire value of a value, if its inline tables define no key twice. A date or a
time has the shape of an object with one text; a float stands for any with a fraction. -/
def Value.toJson? : Value → Option Json
  | .text value => some (.text value)
  | .integer value => some (.integer value)
  | .decimal => some (.decimal "")
  | .boolean value => some (.bool value)
  | .moment => some (.object [("moment", .text "")])
  | .array items => (itemsJson? items).map .array
  | .inline pairs => (inlineEntries? [] pairs).map fun entries => .object (entriesJson entries)

def itemsJson? : List Value → Option (List Json)
  | [] => some []
  | item :: rest => do return (← item.toJson?) :: (← itemsJson? rest)

def inlineEntries? (entries : Entries) : List (List String × Value) → Option Entries
  | [] => some entries
  | (path, value) :: rest => do
    inlineEntries? (← Entries.addPair (← value.toJson?) path true entries) rest

end

/-- The tables so far, and the path of the one that pairs are added to. -/
structure Draft where
  entries : Entries
  current : List String

def Draft.add (draft : Draft) : Statement → Option Draft
  | .pair path value => do
    let value ← value.toJson?
    let entries ← Entries.editAt (Entries.addPair value path true) draft.current draft.entries
    return { draft with entries := entries }
  | .table path => do
    let entries ← Entries.editAt (Entries.openTable (path.getLastD "")) path.dropLast draft.entries
    return ⟨entries, path⟩
  | .arrayTable path => do
    let entries ← Entries.editAt (Entries.openElement (path.getLastD "")) path.dropLast draft.entries
    return ⟨entries, path⟩

def read (text : String) : Option Json.Fields := do
  let draft ← (← document text).foldlM Draft.add ⟨[], []⟩
  return entriesJson draft.entries

end LessonShell.Toml

import LessonShell.Toml.Number

/-! Values and statements of a TOML document, in the order in which they are written.
What a statement adds to which table is decided later. -/
namespace LessonShell.Toml

/-- An inline table keeps its pairs as they are written. The values of floats, dates
and times are not kept: nothing reads them. -/
inductive Value where
  | text (value : String)
  | integer (value : Int)
  | decimal
  | boolean (value : Bool)
  | moment
  | array (items : List Value)
  | inline (pairs : List (List String × Value))

inductive Statement where
  | pair (path : List String) (value : Value)
  | table (path : List String)
  | arrayTable (path : List String)

/-- The items of an array after its bracket; a comma may follow the last. -/
def arrayItems (item : Reader Value) : Nat → Reader (List Value)
  | 0, _ => none
  | bound + 1, input => do
    match ← skipLines false input with
    | ']' :: rest => return ([], rest)
    | input =>
      let (value, rest) ← item input
      match ← skipLines false rest with
      | ']' :: rest => return ([value], rest)
      | ',' :: rest =>
        let (values, rest) ← arrayItems item bound rest
        return (value :: values, rest)
      | _ => none

def pair (item : Reader Value) (input : List Char) : Option ((List String × Value) × List Char) := do
  let (path, rest) ← key input
  let (value, rest) ← item (skipGap (← expect '=' rest))
  return ((path, value), rest)

/-- The pairs of an inline table; no comma may follow the last. -/
def inlinePairs (item : Reader Value) : Nat → Reader (List (List String × Value))
  | 0, _ => none
  | bound + 1, input => do
    let (first, rest) ← pair item input
    match skipGap rest with
    | '}' :: rest => return ([first], rest)
    | ',' :: rest =>
      let (others, rest) ← inlinePairs item bound rest
      return (first :: others, rest)
    | _ => none

def inlineTable (item : Reader Value) (input : List Char) :
    Option (List (List String × Value) × List Char) :=
  match skipGap input with
  | '}' :: rest => some ([], rest)
  | input => inlinePairs item input.length input

def scalar (input : List Char) : Option (Value × List Char) :=
  match input with
  | 't' :: 'r' :: 'u' :: 'e' :: rest => some (.boolean true, rest)
  | 'f' :: 'a' :: 'l' :: 's' :: 'e' :: rest => some (.boolean false, rest)
  | _ =>
    ((moment input).map fun (_, rest) => (Value.moment, rest)) <|>
    ((decimal input).map fun (_, rest) => (Value.decimal, rest)) <|>
    ((nonFinite input).map fun (_, rest) => (Value.decimal, rest)) <|>
    ((integer input).map fun (value, rest) => (Value.integer value, rest))

/-- A value with fewer than `depth` levels of arrays and inline tables. -/
def value : Nat → Reader Value
  | 0, _ => none
  | depth + 1, input =>
    match input with
    | '[' :: rest =>
      if depth = 0 then none
      else (arrayItems (value depth) (rest.length + 1) rest).map fun (items, rest) => (.array items, rest)
    | '{' :: rest =>
      if depth = 0 then none
      else (inlineTable (value depth) rest).map fun (pairs, rest) => (.inline pairs, rest)
    | '"' :: _ => (stringText input).map fun (text, rest) => (.text (String.ofList text), rest)
    | '\'' :: _ => (stringText input).map fun (text, rest) => (.text (String.ofList text), rest)
    | _ => scalar input

/-- A statement at the start of a line, with the line end after it. -/
def statement (input : List Char) : Option (Statement × List Char) :=
  match input with
  | '[' :: '[' :: rest => do
    let (path, rest) ← key rest
    let rest ← endOfLine (← expect ']' (← expect ']' rest))
    return (.arrayTable path, rest)
  | '[' :: rest => do
    let (path, rest) ← key rest
    let rest ← endOfLine (← expect ']' rest)
    return (.table path, rest)
  | _ => do
    let ((path, value), rest) ← pair (value sizeLimit) input
    return (.pair path value, ← endOfLine rest)

def statements : Nat → List Char → Option (List Statement)
  | 0, _ => none
  | bound + 1, input =>
    match skipGap input with
    | [] => some []
    | '\n' :: rest => statements bound rest
    | '#' :: rest => do statements bound (← endOfLine ('#' :: rest))
    | input => do
      let (first, rest) ← statement input
      return first :: (← statements bound rest)

/-- All statements of a document. A byte order mark may open it. -/
def document (text : String) : Option (List Statement) :=
  let input := match unifyLineEnds text.toList with
    | '\ufeff' :: rest => rest
    | input => input
  statements (input.length + 1) input

end LessonShell.Toml

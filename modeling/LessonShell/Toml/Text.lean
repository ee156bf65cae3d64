/-! Strings, keys and blanks of TOML 1.0. Line ends are single line feeds here: a
carriage return before one is dropped first, and any other is refused everywhere. -/
namespace LessonShell.Toml

/-- Reads a value from the front of a text and returns what follows it. -/
abbrev Reader (α : Type) := List Char → Option (α × List Char)

/-- Drops each carriage return that stands before a line feed. -/
def unifyLineEnds : List Char → List Char
  | [] => []
  | c :: rest =>
    if c = '\r' ∧ rest.head? = some '\n' then unifyLineEnds rest else c :: unifyLineEnds rest

/-- Tabs and everything from the space on, without the delete character. -/
def isPlain (c : Char) : Bool := c = '\t' || (' ' ≤ c && c ≠ '\x7f')

def isGap (c : Char) : Bool := c = ' ' || c = '\t'

def skipGap (input : List Char) : List Char := input.dropWhile isGap

def isHexDigit (c : Char) : Bool :=
  c.isDigit || ('a' ≤ c && c ≤ 'f') || ('A' ≤ c && c ≤ 'F')

def digitValue (c : Char) : Nat :=
  if c.isDigit then c.toNat - '0'.toNat
  else if 'a' ≤ c then c.toNat - 'a'.toNat + 10
  else c.toNat - 'A'.toNat + 10

def digitsValue (base : Nat) (digits : List Char) : Nat :=
  digits.foldl (fun value digit => base * value + digitValue digit) 0

/-- The character with this hexadecimal code, if the code is one of a character. -/
def charOfCode? (digits : List Char) : Option Char :=
  let code := digitsValue 16 digits
  if digits.all isHexDigit ∧ code.isValidChar then some (Char.ofNat code) else none

def escapedChar? : Char → Option Char
  | 'b' => some '\x08'
  | 't' => some '\t'
  | 'n' => some '\n'
  | 'f' => some '\x0c'
  | 'r' => some '\r'
  | '"' => some '"'
  | '\\' => some '\\'
  | _ => none

/-- Puts a character, if there is one, before the text that was read. -/
def prepend (c : Option Char) (read : Option (List Char × List Char)) : Option (List Char × List Char) := do
  let c ← c
  let (text, rest) ← read
  return (c :: text, rest)

/-- The rest of a basic string on one line, with its escapes read. -/
def basicText : Reader (List Char)
  | '"' :: rest => some ([], rest)
  | '\\' :: 'u' :: a :: b :: c :: d :: rest => prepend (charOfCode? [a, b, c, d]) (basicText rest)
  | '\\' :: 'U' :: a :: b :: c :: d :: e :: f :: g :: h :: rest =>
    prepend (charOfCode? [a, b, c, d, e, f, g, h]) (basicText rest)
  | '\\' :: c :: rest => prepend (escapedChar? c) (basicText rest)
  | c :: rest => if isPlain c then prepend (some c) (basicText rest) else none
  | [] => none

def literalText : Reader (List Char)
  | '\'' :: rest => some ([], rest)
  | c :: rest => if isPlain c then prepend (some c) (literalText rest) else none
  | [] => none

/-- The end of a string on several lines: three marks, after at most two that belong
to the text. -/
def closing? (mark : Char) (input : List Char) : Option (List Char × List Char) :=
  let run := (input.takeWhile (· == mark)).length
  let kept := min (run - 3) 2
  if 3 ≤ run then some (List.replicate kept mark, input.drop (3 + kept)) else none

/-- The rest of a basic string on several lines. A backslash at the end of a line drops
the white space up to the next character; `dropping` is set while it does. -/
def longBasicText (dropping : Bool) : Reader (List Char)
  | '\\' :: 'u' :: a :: b :: c :: d :: rest =>
    prepend (charOfCode? [a, b, c, d]) (longBasicText false rest)
  | '\\' :: 'U' :: a :: b :: c :: d :: e :: f :: g :: h :: rest =>
    prepend (charOfCode? [a, b, c, d, e, f, g, h]) (longBasicText false rest)
  | '\\' :: c :: rest =>
    if (skipGap (c :: rest)).head? = some '\n' then longBasicText true rest
    else prepend (escapedChar? c) (longBasicText false rest)
  | c :: rest =>
    if dropping ∧ (isGap c ∨ c = '\n') then longBasicText true rest
    else match closing? '"' (c :: rest) with
      | some read => some read
      | none => if isPlain c ∨ c = '\n' then prepend (some c) (longBasicText false rest) else none
  | [] => none

def longLiteralText : Reader (List Char)
  | c :: rest =>
    match closing? '\'' (c :: rest) with
    | some read => some read
    | none => if isPlain c ∨ c = '\n' then prepend (some c) (longLiteralText rest) else none
  | [] => none

/-- A line end right after the opening marks is no part of the text. -/
def skipFirstLineEnd : List Char → List Char
  | '\n' :: rest => rest
  | input => input

def stringText : Reader (List Char)
  | '"' :: '"' :: '"' :: rest => longBasicText false (skipFirstLineEnd rest)
  | '"' :: rest => basicText rest
  | '\'' :: '\'' :: '\'' :: rest => longLiteralText (skipFirstLineEnd rest)
  | '\'' :: rest => literalText rest
  | _ => none

def isBareKey (c : Char) : Bool := c.isAlphanum || c = '_' || c = '-'

/-- One part of a key: bare, or a string on one line. -/
def keyPart : Reader String
  | '"' :: rest => (basicText rest).map fun (text, rest) => (String.ofList text, rest)
  | '\'' :: rest => (literalText rest).map fun (text, rest) => (String.ofList text, rest)
  | input =>
    match input.takeWhile isBareKey with
    | [] => none
    | bare => some (String.ofList bare, input.dropWhile isBareKey)

/-- Nesting and dotted keys of this size are refused. -/
def sizeLimit : Nat := 80

/-- At most `parts` parts of a key with dots between them and gaps around each. -/
def keyParts : Nat → Reader (List String)
  | 0, _ => none
  | parts + 1, input => do
    let (name, rest) ← keyPart (skipGap input)
    match skipGap rest with
    | '.' :: rest =>
      let (names, rest) ← keyParts parts rest
      return (name :: names, rest)
    | rest => return ([name], rest)

def key : Reader (List String) := keyParts (sizeLimit - 1)

/-- Skips gaps, line ends and comments between the parts of an array; `inComment` is set
up to the end of a line. -/
def skipLines (inComment : Bool) : List Char → Option (List Char)
  | [] => some []
  | c :: rest =>
    if c = '\n' then skipLines false rest
    else if inComment then (if isPlain c then skipLines true rest else none)
    else if isGap c then skipLines false rest
    else if c = '#' then skipLines true rest
    else some (c :: rest)

/-- What follows the end of a line, if nothing but a gap and a comment is left of it. -/
def endOfLine (input : List Char) : Option (List Char) :=
  let rest := match skipGap input with
    | '#' :: comment => comment.dropWhile isPlain
    | rest => rest
  match rest with
  | [] => some []
  | '\n' :: rest => some rest
  | _ => none

end LessonShell.Toml

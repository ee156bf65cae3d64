/-! Cutting, searching and replacing over character lists, and the same on strings.
Every function here is a recursion on the text it reads. -/
namespace LessonShell.Text

/-- The parts of a text between the characters that `cut` accepts; always at least one part. -/
def pieces (cut : Char → Bool) : List Char → List (List Char)
  | [] => [[]]
  | c :: rest =>
    if cut c then [] :: pieces cut rest
    else match pieces cut rest with
      | [] => [[c]]
      | first :: others => (c :: first) :: others

/-- The nonempty parts between the characters that `cut` accepts. -/
def fields (cut : Char → Bool) (text : List Char) : List (List Char) :=
  (pieces cut text).filter (· ≠ [])

/-- The text with everything up to its last `mark` removed, or all of it without a `mark`. -/
def afterLast (mark : Char) : List Char → List Char
  | [] => []
  | c :: rest => if mark ∈ rest then afterLast mark rest else if c = mark then rest else c :: rest

/-- The text before its last `mark`, if it has one. -/
def beforeLast? (mark : Char) : List Char → Option (List Char)
  | [] => none
  | c :: rest =>
    if mark ∈ rest then (beforeLast? mark rest).map (c :: ·)
    else if c = mark then some [] else none

/-- Whether `needle` stands somewhere in the text. -/
def occurs (needle : List Char) : List Char → Bool
  | [] => needle.isEmpty
  | c :: rest => needle.isPrefixOf (c :: rest) || occurs needle rest

/-- The text around the first place where `mark` stands. -/
def cutAt (mark : List Char) : List Char → Option (List Char × List Char)
  | [] => if mark.isEmpty then some ([], []) else none
  | c :: rest =>
    if mark.isPrefixOf (c :: rest) then some ([], (c :: rest).drop mark.length)
    else (cutAt mark rest).map fun (before, after) => (c :: before, after)

/-- Replaces `mark` from left to right; `skip` counts characters of a mark already replaced. -/
def replaceFrom (mark value : List Char) : Nat → List Char → List Char
  | _, [] => []
  | skip + 1, _ :: rest => replaceFrom mark value skip rest
  | 0, c :: rest =>
    if mark.isPrefixOf (c :: rest) then value ++ replaceFrom mark value (mark.length - 1) rest
    else c :: replaceFrom mark value 0 rest

/-- The text without the characters at its end that `drop` accepts. -/
def dropEndWhile (drop : Char → Bool) (text : List Char) : List Char :=
  (text.reverse.dropWhile drop).reverse

/-- Whether `needle` stands somewhere in `text`. -/
def contains (text needle : String) : Bool := occurs needle.toList text.toList

/-- Every occurrence of the nonempty `mark`, read from the left, replaced by `value`. -/
def replace (text mark value : String) : String :=
  String.ofList (replaceFrom mark.toList value.toList 0 text.toList)

def splitOn (mark : Char) (text : String) : List String :=
  (pieces (· == mark) text.toList).map String.ofList

def startsWith (text start : String) : Bool := start.toList.isPrefixOf text.toList

/-- What follows `start`, if the text begins with it. -/
def stripStart? (text start : String) : Option String :=
  if startsWith text start then some (String.ofList (text.toList.drop start.toList.length)) else none

/-- What stands before `ending`, if the text ends with it. -/
def stripEnd? (text ending : String) : Option String :=
  let kept := text.toList.length - ending.toList.length
  if ending.toList.isSuffixOf text.toList then some (String.ofList (text.toList.take kept)) else none

/-- Letters `A` to `Z` made small; every other character is kept. -/
def foldCase (text : String) : String := String.ofList (text.toList.map Char.toLower)

/-- Spaces added on the right up to `width` characters. -/
def padRight (width : Nat) (text : String) : String :=
  text ++ String.ofList (List.replicate (width - text.toList.length) ' ')

end LessonShell.Text

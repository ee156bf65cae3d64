import LessonShell.Text.Pieces

/-! White space: the twenty-five code points with the property White_Space.
Zero-width and information-separator characters are not among them. -/
namespace LessonShell.Text

def isBlank (c : Char) : Bool :=
  let n := c.toNat
  (0x9 ≤ n && n ≤ 0xD) || n == 0x20 || n == 0x85 || n == 0xA0 || n == 0x1680 ||
    (0x2000 ≤ n && n ≤ 0x200A) || n == 0x2028 || n == 0x2029 || n == 0x202F || n == 0x205F || n == 0x3000

def trimStart (text : List Char) : List Char := text.dropWhile isBlank

/-- The text without white space at either end. -/
def trim (text : List Char) : List Char := dropEndWhile isBlank (trimStart text)

/-- The text after its first word and the white space that follows it. -/
def afterWord (text : List Char) : List Char :=
  trimStart ((trimStart text).dropWhile fun c => !isBlank c)

def trimmed (text : String) : String := String.ofList (trim text.toList)

/-- The maximal runs without white space, in order. -/
def words (text : String) : List String := (fields isBlank text.toList).map String.ofList

end LessonShell.Text

import LessonShell.Text.Pieces
import Std.Data.ExtTreeMap

/-! Paths, once as the list of their segments and once as spelled text.
Spelled text may hold repeated or trailing slashes; `Path.ofText` forgets them. -/
namespace LessonShell

/-- An absolute path: its segments from the root, which is the empty list. -/
abbrev Path := List String

def IsSegment (name : String) : Prop := name ≠ "" ∧ '/' ∉ name.toList

instance (name : String) : Decidable (IsSegment name) := inferInstanceAs (Decidable (_ ∧ _))

namespace Path

def root : Path := []

def Normal (path : Path) : Prop := ∀ name ∈ path, IsSegment name

instance (path : Path) : Decidable path.Normal := inferInstanceAs (Decidable (∀ name ∈ path, _))

/-- The nonempty segments of a spelled path. -/
def ofText (text : String) : Path := (Text.fields (· == '/') text.toList).map String.ofList

/-- A slash before each segment, and a single slash for the root. -/
def text (path : Path) : String :=
  if path.isEmpty then "/" else String.join (path.map ("/" ++ ·))

def parent (path : Path) : Path := path.dropLast

/-- The last segment, empty for the root. -/
def name (path : Path) : String := path.getLastD ""

def child (path : Path) (name : String) : Path := path ++ [name]

def isWithin (path top : Path) : Bool := top.isPrefixOf path

/-- Paths are ordered by code points of their text. -/
def order : Path → Path → Ordering := compareLex (compareOn text) compare

instance : Std.TransCmp order := inferInstanceAs (Std.TransCmp (compareLex _ _))

instance : Std.LawfulEqCmp order where
  eq_of_compare {first second} same := by
    simp only [order, compareLex, Ordering.then_eq_eq] at same
    exact Std.LawfulEqCmp.eq_of_compare same.2

/-- Follows one piece of a spelled path: `..` leaves a segment, never the root. -/
def follow (here : Path) (piece : String) : Path :=
  if piece = "" ∨ piece = "." then here
  else if piece = ".." then here.dropLast
  else here ++ [piece]

end Path

/-! Operations on paths as they are spelled, whether or not they are in normal form. -/
namespace PathText

/-- Starts with a slash, ends with none unless it is the root, and doubles none. -/
def isNormal (text : List Char) : Bool :=
  text.head? == some '/' && !(1 < text.length && text.getLast? == some '/') && !Text.occurs ['/', '/'] text

/-- Text in normal form is kept; any other is spelled again from its segments. -/
def normalize (text : String) : String :=
  if isNormal text.toList then text else (Path.ofText text).text

/-- Everything before the last slash, and the root where nothing stands before it. -/
def parent (text : String) : String :=
  match Text.beforeLast? '/' text.toList with
  | none | some [] => "/"
  | some before => String.ofList before

def fileName (text : String) : String := String.ofList (Text.afterLast '/' text.toList)

def join (dir name : String) : String := if dir = "/" then "/" ++ name else dir ++ "/" ++ name

/-- Where `input` leads from `cwd`; an input with a leading slash starts at the root. -/
def locate (cwd input : String) : Path :=
  let spelled := if Text.startsWith input "/" then input else join cwd input
  (Text.splitOn '/' spelled).foldl Path.follow Path.root

def resolve (cwd input : String) : String := (locate cwd input).text

end PathText
end LessonShell

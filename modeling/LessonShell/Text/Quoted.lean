import LessonShell.Text.Unprintable

/-! Quoted text: double quotes around it, escapes for quotes, backslashes, control
characters and everything else that has no visible form of its own. -/
namespace LessonShell.Text

/-- A character as it stands inside quotes; a single quote needs no escape. -/
def escaped (c : Char) : List Char :=
  if c = '\x00' then ['\\', '0']
  else if c = '\t' then ['\\', 't']
  else if c = '\r' then ['\\', 'r']
  else if c = '\n' then ['\\', 'n']
  else if c = '"' ∨ c = '\\' then ['\\', c]
  else if isUnprintable c then
    '\\' :: 'u' :: '\x7b' :: Nat.toDigits 16 c.toNat ++ ['\x7d']
  else [c]

def quoted (text : String) : String :=
  String.ofList ('"' :: text.toList.flatMap escaped ++ ['"'])

end LessonShell.Text

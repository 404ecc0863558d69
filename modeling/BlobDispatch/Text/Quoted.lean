import BlobDispatch.Text.DefaultIgnorableTable
import BlobDispatch.Text.GraphemeExtendTable
import BlobDispatch.Text.Ranges
import BlobDispatch.Text.UnprintedTable

/-! Quoted texts, as diagnostics show them: what would be invisible or ambiguous between the
quotes is written as an escape, so that a message stays on one line and tells any two texts
apart. -/

namespace BlobDispatch.Text

/-- The halfwidth sound marks of Katakana. They extend the character before them, but take a cell
of their own and can be told apart from it. -/
def isHalfwidthMark (c : Char) : Bool := c == '\uff9e' || c == '\uff9f'

/-- Whether a character shows only on the one before it. -/
def isAttached (c : Char) : Bool := inRanges c.toNat graphemeExtendRanges && !isHalfwidthMark c

/-- Whether a character is written as it is, quotes and the backslash apart: it has a form that is
seen, and seen on its own. -/
def isPrinted (c : Char) : Bool :=
  !inRanges c.toNat unprintedRanges && !inRanges c.toNat defaultIgnorableRanges && !isAttached c

/-- The escape of a character between two characters `quote`. -/
def escaped (quote c : Char) : List Char :=
  if c = '\x00' then ['\\', '0']
  else if c = '\t' then ['\\', 't']
  else if c = '\r' then ['\\', 'r']
  else if c = '\n' then ['\\', 'n']
  else if c = '\\' ∨ c = quote then ['\\', c]
  else if isPrinted c then [c]
  else '\\' :: 'u' :: '\x7b' :: Nat.toDigits 16 c.toNat ++ ['\x7d']

/-- A text in double quotes. A single quote in it stays plain. -/
def quoted (s : String) : String :=
  String.ofList ('\"' :: s.toList.flatMap (escaped '\"') ++ ['\"'])

/-- A character in single quotes. A double quote in it stays plain. -/
def quotedChar (c : Char) : String := String.ofList ('\'' :: escaped '\'' c ++ ['\''])

/-- Keys with the diagnostic forms of their values, between braces and in order. -/
def inspectPairs (pairs : List (String × String)) : String :=
  "\x7b" ++ ", ".intercalate (pairs.map fun (key, shown) => quoted key ++ ": " ++ shown) ++ "\x7d"

end BlobDispatch.Text

import BlobDispatch.FoldedMap.Basic
import BlobDispatch.Template.Error

/-! Placeholders, the named gaps of a pattern. A plain name stands for a capture; a name after
`metadata.` stands for an entry of a blob's metadata. Names are ASCII identifiers, and the marker
may be written in any ASCII case. -/

namespace BlobDispatch

/-- A placeholder with its text as written between the braces, the marker of the metadata form
included. -/
inductive Placeholder where
  | capture (name : String)
  | metadata (text : String)
  deriving DecidableEq

namespace Placeholder

/-- The text before a metadata key, in lower case. -/
def marker : String := "metadata."

/-- What a text has after its first `n` bytes, unless that place is inside a character or past
the end. -/
def afterBytes (n : Nat) : List Char → Option (List Char)
  | [] => if n = 0 then some [] else none
  | c :: rest =>
    if n = 0 then some (c :: rest)
    else if c.utf8Size ≤ n then afterBytes (n - c.utf8Size) rest
    else none

/-- The text as written between the braces. -/
def name : Placeholder → String
  | .capture name => name
  | .metadata text => text

def isMetadata : Placeholder → Bool
  | .capture _ => false
  | .metadata _ => true

/-- The name to look up: that of the capture, or what follows the nine bytes of the marker. -/
def key : Placeholder → String
  | .capture name => name
  | .metadata text => String.ofList ((afterBytes marker.utf8ByteSize text.toList).getD [])

/-- The diagnostic form of a placeholder. -/
def inspect : Placeholder → String
  | .capture name => "Capture(" ++ Text.quoted name ++ ")"
  | .metadata text => "Metadata(" ++ Text.quoted text ++ ")"

def isNameStart (c : Char) : Bool := c.isAlpha || c == '_'

def isNameCharacter (c : Char) : Bool := c.isAlphanum || c == '_'

/-- An ASCII identifier: a letter or underscore, then letters, digits and underscores. -/
def IsIdentifier (text : List Char) : Prop :=
  ∃ first rest, text = first :: rest ∧ isNameStart first ∧ ∀ c ∈ rest, isNameCharacter c

/-- Refuses a text that is no identifier, for its first character before any later one. -/
def checkIdentifier : List Char → Except Template.Fault Unit
  | [] => .error .emptyName
  | first :: rest =>
    if isNameStart first then
      match rest.find? fun c => !isNameCharacter c with
      | none => .ok ()
      | some found => .error (.badCharacter (String.ofList (first :: rest)) found)
    else .error (.badFirst (String.ofList (first :: rest)))

/-- The text after the marker, when the marker in some ASCII case comes first and more follows. -/
def afterMarker? (text : List Char) : Option (List Char) :=
  if (text.take marker.length).map Char.toLower = marker.toList ∧ marker.length < text.length then
    some (text.drop marker.length)
  else none

/-- The placeholder with a text between its braces. -/
def ofText? (text : List Char) : Except Template.Fault Placeholder :=
  match afterMarker? text with
  | some key => (checkIdentifier key).map fun _ => .metadata (String.ofList text)
  | none => (checkIdentifier text).map fun _ => .capture (String.ofList text)

/-- The value of a placeholder: a capture of that name, or a metadata entry of that key. -/
def value? (binding : CaseMap String) (metadata : Metadata) : Placeholder → Option String
  | .capture name => binding.get? name
  | .metadata text => metadata.get? (Placeholder.metadata text).key

end Placeholder

end BlobDispatch

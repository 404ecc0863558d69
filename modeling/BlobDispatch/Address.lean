import BlobDispatch.Text.Quoted
import BlobDispatch.Text.Segments

/-! Addresses of blobs: a container and a name in it, written with a slash between them. The name
may hold further slashes and the container may not, so the text is cut at its first one. The type
itself promises nothing: `Valid` states the promise, and the two constructors below keep it. -/

namespace BlobDispatch

structure Address where
  container : String
  name : String
  deriving DecidableEq

namespace Address

/-- Both parts have text in them, and the container has no separator. -/
def Valid (a : Address) : Prop := a.container ≠ "" ∧ '/' ∉ a.container.toList ∧ a.name ≠ ""

instance (a : Address) : Decidable a.Valid := inferInstanceAs (Decidable (_ ∧ _ ∧ _))

/-- The text of an address. -/
def text (a : Address) : String := a.container ++ "/" ++ a.name

/-- The diagnostic form of an address. -/
def inspect (a : Address) : String := "BlobPath(" ++ a.text ++ ")"

/-- Addresses are ordered by container and then by name, each by code points. -/
instance : Ord Address :=
  ⟨fun a b => (compare a.container b.container).then (compare a.name b.name)⟩

/-- Addresses in ascending order, equal ones kept. -/
def sort (addresses : List Address) : List Address :=
  addresses.mergeSort fun a b => (compare a b).isLE

/-- Why two parts, or one text, make no address. -/
inductive Fault where
  | noSeparator
  | emptyContainer
  | separatorInContainer
  | emptyName
  deriving DecidableEq

def Fault.message : Fault → String
  | .noSeparator => "expected 'container/object'"
  | .emptyContainer => "container name must not be empty"
  | .separatorInContainer => "container name must not contain '/'"
  | .emptyName => "object name must not be empty"

structure Error where
  text : String
  fault : Fault
  deriving DecidableEq

def Error.message (e : Error) : String :=
  "invalid blob path " ++ Text.quoted e.text ++ ": " ++ e.fault.message

/-- The address with the given parts. Of several faults the container's come first. -/
def ofParts (container name : String) : Except Error Address :=
  if container = "" then .error ⟨container ++ "/" ++ name, .emptyContainer⟩
  else if '/' ∈ container.toList then .error ⟨container ++ "/" ++ name, .separatorInContainer⟩
  else if name = "" then .error ⟨container ++ "/" ++ name, .emptyName⟩
  else .ok ⟨container, name⟩

/-- Reads the text of an address. -/
def parse (s : String) : Except Error Address :=
  match Text.cut? '/' s.toList with
  | none => .error ⟨s, .noSeparator⟩
  | some (container, name) => ofParts (String.ofList container) (String.ofList name)

end Address

end BlobDispatch

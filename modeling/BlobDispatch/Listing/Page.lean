import BlobDispatch.Blob
import BlobDispatch.Listing.Query

/-! Pages of listings. Blobs come in ascending order of name; in a listing of one level, all blobs
of a directory are folded into one item at the place of the first. What belongs to a listing is
stated apart from the fold, by `IsEntry`. -/

namespace BlobDispatch.Listing

/-- A blob, or a directory that stands for every blob whose name begins with its prefix. -/
inductive Item where
  | blob (blob : Blob)
  | directory (container namePrefix : String)

namespace Item

/-- The text that items are ordered by. -/
def key : Item → String
  | .blob stored => stored.name
  | .directory _ namePrefix => namePrefix

def isDirectory : Item → Bool
  | .blob _ => false
  | .directory _ _ => true

def blob? : Item → Option Blob
  | .blob stored => some stored
  | .directory _ _ => none

end Item

/-- A page of items, with the cursor of the next page unless there is none. -/
structure Page where
  items : List Item
  next : Option Cursor

def Page.blobs (page : Page) : List Blob := page.items.filterMap Item.blob?

/-- The directory one level below a prefix that a name lies in, if it lies deeper than that. -/
def directory? (namePrefix name : String) : Option String := do
  let rest ← Text.stripLead? namePrefix.toList name.toList
  let (level, _) ← Text.cut? '/' rest
  return String.ofList (namePrefix.toList ++ level ++ ['/'])

/-- The items of ascending blobs under a target. `current` is the directory given last, which is
not given again. -/
def fold (target : Target) (flat : Bool) (current : Option String) : List Blob → List Item
  | [] => []
  | blob :: rest =>
    if flat then .blob blob :: fold target flat current rest
    else match directory? target.namePrefix blob.name with
      | none => .blob blob :: fold target flat current rest
      | some directory =>
        if current = some directory then fold target flat current rest
        else .directory target.container directory :: fold target flat (some directory) rest

/-- The page of a query: of the items above the key `after`, the first `size`, and a cursor if an
item is left over. -/
def page (query : Query) (target : Target) (blobs : List Blob) (after : Option String)
    (size : Nat) : Page :=
  let items := (fold target query.flat none blobs).dropWhile fun item =>
    match after with
    | none => false
    | some last => item.key ≤ last
  let shown := items.take size
  { items := shown
    next := match items.drop size, shown.getLast? with
      | _ :: _, some last => some ⟨query, last.key⟩
      | _, _ => none }

/-- What the full listing of a target holds, given the blobs of its container: flat, the blobs
under the prefix; otherwise those of them with no further separator, and a directory for every
level below which some blob lies. -/
inductive IsEntry (target : Target) (flat : Bool) (blobs : List Blob) : Item → Prop
  | blob {blob : Blob} {rest : List Char} (stored : blob ∈ blobs)
      (under : blob.name.toList = target.namePrefix.toList ++ rest)
      (shown : flat = true ∨ '/' ∉ rest) : IsEntry target flat blobs (.blob blob)
  | directory {blob : Blob} {level deeper : List Char} (hierarchical : flat = false)
      (stored : blob ∈ blobs)
      (under : blob.name.toList = target.namePrefix.toList ++ level ++ '/' :: deeper)
      (single : '/' ∉ level) :
      IsEntry target flat blobs (.directory target.container
        (String.ofList (target.namePrefix.toList ++ level ++ ['/'])))

end BlobDispatch.Listing

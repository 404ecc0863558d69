import BlobDispatch.Listing.Page

/-! Listings under other tags. Nothing in a page is chosen or ordered by a tag, so a page of blobs
with other tags is the same page, with the same cursor, but for the tags. -/

namespace BlobDispatch

variable (f : Tag → Tag)

/-- A blob as it is but for its tag. -/
def Blob.retag (b : Blob) : Blob :=
  { b with properties := { b.properties with tag := f b.tag } }

namespace Listing

def Item.retag : Item → Item
  | .blob stored => .blob (stored.retag f)
  | .directory container namePrefix => .directory container namePrefix

def Page.retag (page : Page) : Page := { page with items := page.items.map (Item.retag f) }

@[simp] theorem Item.key_retag (item : Item) : (item.retag f).key = item.key := by
  cases item <;> rfl

theorem Item.blob?_retag (item : Item) : (item.retag f).blob? = item.blob?.map (Blob.retag f) := by
  cases item <;> rfl

theorem Page.blobs_retag (page : Page) : (page.retag f).blobs = page.blobs.map (Blob.retag f) := by
  rw [Page.blobs, Page.retag, List.filterMap_map, Page.blobs, List.map_filterMap]
  exact congrArg (page.items.filterMap ·) (funext (Item.blob?_retag f))

theorem blobs_of_pages_retag (pages : List Page) : (pages.map (Page.retag f)).flatMap Page.blobs =
    (pages.flatMap Page.blobs).map (Blob.retag f) := by
  rw [List.flatMap_map, List.map_flatMap]
  exact congrArg (pages.flatMap ·) (funext (Page.blobs_retag f))

theorem fold_retag (target : Target) (flat : Bool) (current : Option String) (blobs : List Blob) :
    fold target flat current (blobs.map (Blob.retag f)) =
      (fold target flat current blobs).map (Item.retag f) := by
  induction blobs generalizing current with
  | nil => rfl
  | cons blob rest ih =>
    have name : (blob.retag f).name = blob.name := rfl
    rw [List.map_cons, fold, fold, name]
    split
    · rw [ih]
      rfl
    · split
      · rw [ih]
        rfl
      · split
        · exact ih current
        · rw [ih]
          rfl

theorem page_retag (query : Query) (target : Target) (blobs : List Blob) (after : Option String)
    (size : Nat) : page query target (blobs.map (Blob.retag f)) after size =
      (page query target blobs after size).retag f := by
  unfold page
  rw [fold_retag, List.dropWhile_map]
  simp only [Function.comp_def, Item.key_retag, ← List.map_take, ← List.map_drop]
  generalize (fold target query.flat none blobs).dropWhile _ = items
  cases later : items.drop size with
  | nil => rfl
  | cons first rest =>
    rw [List.getLast?_map, List.map_cons, Page.retag]
    cases (items.take size).getLast? with
    | none => rfl
    | some last => simp

end Listing

end BlobDispatch

import BlobDispatch.Store.Basic

/-! Draining a query: asking for its first page and then, with every cursor that comes back, for
the next one. `Drains` is the relation between a state, a query and the pages of such a sequence;
the function stops after as many pages as there can be, one more than the blobs of the store. -/

namespace BlobDispatch.Store

/-- The pages from a cursor on, up to one that has no next page. -/
inductive Drains (s : Store) (query : Listing.Query) :
    Option Listing.Cursor → List Listing.Page → Prop
  | last {cursor : Option Listing.Cursor} {page : Listing.Page}
      (listed : s.list query cursor = .ok page) (final : page.next = none) :
      Drains s query cursor [page]
  | more {cursor : Option Listing.Cursor} {page : Listing.Page} {next : Listing.Cursor}
      {rest : List Listing.Page} (listed : s.list query cursor = .ok page)
      (continued : page.next = some next) (drained : Drains s query (some next) rest) :
      Drains s query cursor (page :: rest)

/-- At most `limit` pages from a cursor on. -/
def pagesFrom (s : Store) (query : Listing.Query) :
    (limit : Nat) → Option Listing.Cursor → Except Error (List Listing.Page)
  | 0, _ => .ok []
  | limit + 1, cursor => do
    let page ← s.list query cursor
    match page.next with
    | none => return [page]
    | some next => return page :: (← s.pagesFrom query limit (some next))

/-- Every page of a query. -/
def pages (s : Store) (query : Listing.Query) : Except Error (List Listing.Page) :=
  s.pagesFrom query (s.size + 1) none

/-- The blobs on the pages of a query. -/
def listAll (s : Store) (query : Listing.Query) : Except Error (List Blob) :=
  (s.pages query).map fun pages => pages.flatMap Listing.Page.blobs

end BlobDispatch.Store

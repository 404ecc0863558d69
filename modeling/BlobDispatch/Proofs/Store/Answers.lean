import BlobDispatch.Proofs.Store.Moves
import BlobDispatch.Proofs.Store.Walk

/-! The blobs in an answer. Whatever an operation gives out, the state after it holds at the address
that the blob carries, so nothing stale and nothing made up is ever returned. -/

namespace BlobDispatch.Store

open Listing

def Reply.returned : Reply → List Blob
  | .blob value => [value]
  | .blobs value => value
  | .page value => value.blobs
  | .pages value => value.flatMap Page.blobs
  | _ => []

/-- The blob is stored at the address that it carries. -/
def Holds (s : Store) (blob : Blob) : Prop := s.blob? blob.container blob.name = some blob

section Answers

variable {s : Store} {blob : Blob}

theorem blob?_eq_some_iff {container name : String} : s.blob? container name = some blob ↔
    ∃ held, s.containers.get? container = some held ∧ held.blobs.get? name = some blob :=
  Option.bind_eq_some_iff

theorem holds_iff : s.Holds blob ↔ s.get blob.container blob.name = .ok blob :=
  blob?_eq_some_iff.trans get_eq_ok_iff.symm

theorem WellFormed.isAt (wellFormed : s.WellFormed) {container name : String}
    (stored : s.blob? container name = some blob) : blob.IsAt container name := by
  obtain ⟨held, found, there⟩ := blob?_eq_some_iff.1 stored
  exact wellFormed container held found name blob there

theorem WellFormed.isAt_of_get (wellFormed : s.WellFormed) {container name : String}
    (done : s.get container name = .ok blob) : blob.IsAt container name :=
  wellFormed.isAt (blob?_eq_some_iff.2 (get_eq_ok_iff.1 done))

theorem holds_of_blob? (wellFormed : s.WellFormed) {container name : String}
    (stored : s.blob? container name = some blob) : s.Holds blob := by
  have placed := wellFormed.isAt stored
  rwa [Holds, placed.container_eq, placed.name_eq]

theorem holds_of_get (wellFormed : s.WellFormed) {container name : String}
    (done : s.get container name = .ok blob) : s.Holds blob :=
  holds_of_blob? wellFormed (blob?_eq_some_iff.2 (get_eq_ok_iff.1 done))

theorem mem_blobs_iff {page : Page} : blob ∈ page.blobs ↔ .blob blob ∈ page.items := by
  rw [Page.blobs, List.mem_filterMap]
  constructor
  · intro shown
    obtain ⟨item, member, same⟩ := shown
    cases item with
    | blob stored =>
      cases same
      exact member
    | directory _ _ => cases same
  · exact fun member => ⟨_, member, rfl⟩

theorem get_of_list (wellFormed : s.WellFormed) {query : Query} {cursor : Option Cursor}
    {page : Page} (done : s.list query cursor = .ok page) (shown : blob ∈ page.blobs) :
    ∃ target, query.target = .ok target ∧ s.get target.container blob.name = .ok blob := by
  obtain ⟨_, target, held, _, resolved, found, _, rfl⟩ := (list_eq_ok_iff wellFormed).1 done
  have left := List.mem_of_mem_take (mem_blobs_iff.1 shown)
  exact ⟨target, resolved, get_of_mem_listing wellFormed found (mem_remaining_iff.1 left).1⟩

theorem holds_of_list (wellFormed : s.WellFormed) {query : Query} {cursor : Option Cursor}
    {page : Page} (done : s.list query cursor = .ok page) (shown : blob ∈ page.blobs) :
    s.Holds blob := by
  obtain ⟨_, _, found⟩ := get_of_list wellFormed done shown
  exact holds_of_get wellFormed found

private theorem exists_list_of_pagesFrom {query : Query} {limit : Nat} {cursor : Option Cursor}
    {pages : List Page} (done : s.pagesFrom query limit cursor = .ok pages)
    (shown : blob ∈ pages.flatMap Page.blobs) :
    ∃ cursor page, s.list query cursor = .ok page ∧ blob ∈ page.blobs := by
  induction limit generalizing cursor pages with
  | zero =>
    cases done
    cases shown
  | succ limit ih =>
    obtain ⟨page, listed, more⟩ := bind_eq_ok_iff.1 done
    split at more
    · cases more
      exact ⟨cursor, page, listed, by simpa using shown⟩
    · obtain ⟨rest, later, same⟩ := bind_eq_ok_iff.1 more
      cases same
      rw [List.flatMap_cons, List.mem_append] at shown
      rcases shown with here | there
      · exact ⟨cursor, page, listed, here⟩
      · exact ih later there

theorem get_of_pages (wellFormed : s.WellFormed) {query : Query} {pages : List Page}
    (done : s.pages query = .ok pages) (shown : blob ∈ pages.flatMap Page.blobs) :
    ∃ target, query.target = .ok target ∧ s.get target.container blob.name = .ok blob := by
  obtain ⟨_, _, listed, here⟩ := exists_list_of_pagesFrom done shown
  exact get_of_list wellFormed listed here

theorem holds_of_pages (wellFormed : s.WellFormed) {query : Query} {pages : List Page}
    (done : s.pages query = .ok pages) (shown : blob ∈ pages.flatMap Page.blobs) :
    s.Holds blob := by
  obtain ⟨_, _, found⟩ := get_of_pages wellFormed done shown
  exact holds_of_get wellFormed found

theorem blob?_put {next : Store} {container name : String} {content : List UInt8}
    {metadata : Option Metadata} {now : Timestamp}
    (done : s.put container name content metadata now = .ok (blob, next)) (c n : String) :
    next.blob? c n = if c = container ∧ n = name then some blob else s.blob? c n := by
  obtain ⟨_, held, found, rfl, rfl⟩ := put_eq_ok_iff.1 done
  rw [blob?_insert rfl, NameTable.get?_insert]
  by_cases inside : c = container
  · by_cases here : n = name
    · simp [inside, here]
    · simp [inside, here, blob?_of_get? found]
  · simp [inside]

theorem holds_of_put {next : Store} {container name : String} {content : List UInt8}
    {metadata : Option Metadata} {now : Timestamp}
    (done : s.put container name content metadata now = .ok (blob, next)) : next.Holds blob := by
  obtain ⟨_, _, _, written, _⟩ := put_eq_ok_iff.1 done
  rw [Holds, blob?_put done, if_pos]
  rw [written]
  exact ⟨rfl, rfl⟩

theorem holds_of_apply (wellFormed : s.WellFormed) {next : Store} {operation : Operation}
    {reply : Reply} (done : s.apply operation = .ok (reply, next)) (shown : blob ∈ reply.returned) :
    next.Holds blob := by
  cases operation with
  | put container name content metadata now =>
    obtain ⟨_, stored, same⟩ := map_eq_ok_iff.1 done
    cases same
    rw [Reply.returned, List.mem_singleton] at shown
    rw [shown]
    exact holds_of_put stored
  | get container name =>
    obtain ⟨_, found, same⟩ := map_eq_ok_iff.1 done
    cases same
    rw [Reply.returned, List.mem_singleton] at shown
    rw [shown]
    exact holds_of_get wellFormed found
  | list query cursor =>
    obtain ⟨_, listed, same⟩ := map_eq_ok_iff.1 done
    cases same
    exact holds_of_list wellFormed listed shown
  | pages query =>
    obtain ⟨_, listed, same⟩ := map_eq_ok_iff.1 done
    cases same
    exact holds_of_pages wellFormed listed shown
  | listAll query =>
    obtain ⟨_, listed, same⟩ := map_eq_ok_iff.1 done
    cases same
    obtain ⟨pages, drained, rfl⟩ := map_eq_ok_iff.1 listed
    exact holds_of_pages wellFormed drained shown
  | createContainer _ | deleteContainer _ | containerExists _ | containerNames | service
  | setService _ | blobCount _ | size | inspect =>
    cases done
    cases shown
  | containerMetadata _ | setContainerMetadata _ _ | delete _ _ | setMetadata _ _ _ =>
    obtain ⟨_, _, same⟩ := map_eq_ok_iff.1 done
    cases same
    cases shown

end Answers

end BlobDispatch.Store

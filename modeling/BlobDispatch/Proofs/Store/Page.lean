import BlobDispatch.Json.Listing
import BlobDispatch.Proofs.Store.Drain
import BlobDispatch.Proofs.Store.Walk

/-! The page that follows a key. A call reads the blobs above the cursor's key, folds them afresh
and drops what is not above it. Which key that is does not matter as long as the cursor is accepted:
it may be the key of nothing, or lie among the names of a directory that a page has shown before. -/

namespace BlobDispatch.Store

open Listing

/-- The page of a query, for every cursor that is accepted and whether or not a store gave it out:
of the entries of the full listing whose keys come after the cursor's, in the order of the bytes of
their keys, the first that fit on a page, with every blob as it can be read. There is a next cursor
just when entries are left over, and it holds the query and the last key of the page. -/
theorem page_after_any_key {s : Store} (reachable : s.Reachable) {query : Query}
    {cursor : Option Cursor} {size : UInt64} {target : Target}
    (sized : s.pageSize query = .ok size) (positive : 1 ≤ size)
    (resolved : query.target = .ok target)
    (stored : s.containerExists target.container = true)
    (accepted : ∀ given, cursor = some given → given.validate query = .ok ()) :
    ∃ (page : Page) (entries : List Item), s.list query cursor = .ok page ∧
      entries.Pairwise (fun a b => Text.bytes a.key < Text.bytes b.key) ∧
      (∀ item, item ∈ entries ↔ s.Lists query item ∧
        ∀ given, cursor = some given → Text.bytes given.lastKey < Text.bytes item.key) ∧
      page.items = entries.take size.toNat ∧
      (∀ blob, .blob blob ∈ page.items → s.get target.container blob.name = .ok blob) ∧
      (size.toNat < entries.length → ∃ last, page.items.getLast? = some last ∧
        page.next = some ⟨query, last.key⟩) ∧
      (entries.length ≤ size.toNat → page.next = none) := by
  have wellFormed := reachable.wellFormed
  obtain ⟨container, found⟩ := Option.isSome_iff_exists.1 stored
  have continued : ∀ given, cursor = some given → given.query = query ∧
      Text.startsWith target.namePrefix given.lastKey = true := by
    intro given same
    obtain ⟨own, _, again, begins⟩ := Cursor.validate_eq_ok_iff.1 (accepted given same)
    cases resolved.symm.trans again
    exact ⟨own, begins⟩
  have answered := (list_eq_ok_iff wellFormed).2
    ⟨size, target, container, sized, resolved, found, continued, rfl⟩
  have ascending := remaining_ascending (cursor.map (·.lastKey)) (listing_ascending target
    query.flat (values_ascending (wellFormed _ container found)))
  refine ⟨_, _, answered, ascending.imp Text.bytes_lt_bytes_iff.2, ?_, rfl, ?_, ?_, ?_⟩
  · intro item
    rw [mem_remaining_iff, lists_iff resolved found]
    simp only [Option.map_eq_some_iff, forall_exists_index, and_imp, forall_apply_eq_imp_iff₂,
      Text.bytes_lt_bytes_iff]
  · intro blob shown
    have left := (mem_remaining_iff.1 (List.mem_of_mem_take shown)).1
    exact get_of_mem_listing wellFormed found left
  · intro more
    exact next_firstPage_of_lt query (UInt64.le_iff_toNat_le.1 positive) more
  · exact next_firstPage_of_le query

/-- A store with a directory of two blobs and two blobs after it. -/
private def branched : Store :=
  ((new {}).run [.createContainer "c", .put "c" "d/x" [] none .epoch,
    .put "c" "d/y" [] none .epoch, .put "c" "e" [] none .epoch, .put "c" "f" [] none .epoch]).2

/-- A cursor read from JSON whose key is the name of nothing and lies among those of a directory:
the directory is not shown again. -/
theorem page_after_any_key_inside :
    let query := (Query.ofContainer "c").hierarchical.withMaxResults 1
    branched.Reachable ∧ branched.containerExists "c" = true ∧
      branched.get "c" "d/xx" = .error (.blobNotFound "c" "d/xx") ∧
      ∃ cursor, decode? (.object [("query", encode query), ("last_key", .string "d/xx")]) =
          some cursor ∧ cursor.validate query = .ok () ∧
        ∃ (page : Page) (entries : List Item), branched.list query (some cursor) = .ok page ∧
          (∀ item, item ∈ entries ↔ branched.Lists query item ∧
            Text.bytes "d/xx" < Text.bytes item.key) ∧
          page.items = entries.take 1 ∧ page.items.map Item.key = ["e"] ∧
          page.next = some ⟨query, "e"⟩ := by
  intro query
  have reachable : branched.Reachable := ⟨_, _, rfl⟩
  have stored : branched.containerExists "c" = true := by decide
  have accepted : (⟨query, "d/xx"⟩ : Cursor).validate query = .ok () := by decide
  have valid : ∀ given, some (⟨query, "d/xx"⟩ : Cursor) = some given →
      given.validate query = .ok () := by
    rintro _ ⟨⟩
    exact accepted
  obtain ⟨page, entries, answered, _, members, first, _⟩ := page_after_any_key reachable
    (show branched.pageSize query = .ok 1 from rfl) (by decide)
    (show query.target = .ok ⟨"c", ""⟩ from rfl) stored valid
  refine ⟨reachable, stored, rfl, _, rfl, accepted, page, entries, answered, ?_, first, ?_⟩
  · simpa using members
  · have shown : (branched.list query (some ⟨query, "d/xx"⟩)).map (fun page =>
        (page.items.map Item.key, page.next)) = .ok (["e"], some ⟨query, "e"⟩) := by decide
    obtain ⟨_, again, same⟩ := map_eq_ok_iff.1 shown
    cases answered.symm.trans again
    exact Prod.mk.inj same

end BlobDispatch.Store

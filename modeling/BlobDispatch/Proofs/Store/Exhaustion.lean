import BlobDispatch.Proofs.Store.Drain
import BlobDispatch.Proofs.Store.Walk

/-! Listings that report their end. A page without a next cursor has shown everything that was left
as long as the store allows pages of one item. A store that is set to pages of none is accepted as
well: its pages are empty and report the end at once, so what it holds is never shown. -/

namespace BlobDispatch.Store

open Listing

/-- What a call has still to show: the entries of the full listing above the cursor's key. -/
def Awaits (s : Store) (query : Query) (cursor : Option Cursor) (item : Item) : Prop :=
  s.Lists query item ∧ ∀ given, cursor = some given → given.lastKey < item.key

private theorem one_le_of_ne_zero {size : UInt64} (nonzero : size ≠ 0) : 1 ≤ size := by
  have above := UInt64.lt_iff_toNat_lt.1 (UInt64.pos_iff_ne_zero.2 nonzero)
  exact UInt64.le_iff_toNat_le.2 above

section Zero

variable {s : Store} {query : Query}

private theorem size_of_zero (zero : s.config.maxPageSize = 0) {size : UInt64}
    (sized : s.pageSize query = .ok size) : size = 0 := by
  unfold pageSize at sized
  split at sized
  · cases sized
    exact zero
  · rename_i asked _
    split at sized
    · cases sized
    · rename_i nonzero
      have above : 0 < asked := UInt64.pos_iff_ne_zero.2 nonzero
      rw [zero, if_pos above] at sized
      cases sized

private theorem page_of_zero (wellFormed : s.WellFormed) (zero : s.config.maxPageSize = 0)
    {cursor : Option Cursor} {page : Page} (answered : s.list query cursor = .ok page) :
    page = ⟨[], none⟩ := by
  obtain ⟨size, _, _, sized, _, _, _, rfl⟩ := (list_eq_ok_iff wellFormed).1 answered
  rw [size_of_zero zero sized]
  exact firstPage_zero _ _

end Zero

section Container

variable {s : Store} {name : String} {container : Container}

private theorem blobs_ofContainer (name : String) (blobs : List Blob) :
    (listing ⟨name, ""⟩ true blobs).filterMap Item.blob? = blobs := by
  rw [blobs_listing_flat]
  apply List.filter_eq_self.2
  intro blob _
  exact Text.startsWith_iff.2 (List.nil_prefix)

/-- Draining a container gives all its blobs, or none where pages are empty. -/
theorem drain_ofContainer (wellFormed : s.WellFormed)
    (found : s.containers.get? name = some container) :
    ∃ pages, s.Drains (Query.ofContainer name) none pages ∧
      s.listAll (Query.ofContainer name) = .ok (pages.flatMap Page.blobs) ∧
      pages.flatMap Page.blobs =
        if s.config.maxPageSize = 0 then [] else container.blobs.values := by
  by_cases zero : s.config.maxPageSize = 0
  · have answered : ∃ page, s.list (Query.ofContainer name) none = .ok page :=
      ⟨_, (list_eq_ok_iff wellFormed).2
        ⟨_, ⟨name, ""⟩, container, rfl, rfl, found, nofun, rfl⟩⟩
    obtain ⟨page, answered⟩ := answered
    have empty := page_of_zero wellFormed zero answered
    subst empty
    refine ⟨[⟨[], none⟩], .last answered rfl, ?_, ?_⟩
    · simp [listAll, pages, pagesFrom, answered, bind, Except.bind, pure, Except.pure, Except.map]
    · rw [if_pos zero]
      rfl
  · have positive := one_le_of_ne_zero zero
    have sized : s.pageSize (Query.ofContainer name) = .ok s.config.maxPageSize := rfl
    obtain ⟨pages, drained, all, cut⟩ := exists_drain wellFormed sized
      (pageSize_pos positive sized)
      (show (Query.ofContainer name).target = .ok ⟨name, ""⟩ from rfl) found
    refine ⟨pages, drained, ?_, ?_⟩
    · rw [listAll, all]
      rfl
    · rw [if_neg zero, cut.blobs_eq]
      exact blobs_ofContainer name _

end Container

/-- What a listing that reports its end has delivered, under every setting of the page length. A
drain of a container returns as many blobs as the container holds, and a page without a next cursor
has shown all that was left, unless the length is zero and something was there to be shown. -/
theorem exhausted_iff {s : Store} (reachable : s.Reachable) {name : String} {count : Nat}
    (stored : s.blobCount? name = some count) :
    (∃ pages, s.Drains (Query.ofContainer name) none pages ∧
      s.listAll (Query.ofContainer name) = .ok (pages.flatMap Page.blobs) ∧
      ((pages.flatMap Page.blobs).length = count ↔ (s.config.maxPageSize = 0 → count = 0)) ∧
      (s.config.maxPageSize ≠ 0 → pages.flatMap Page.blobs = s.blobsIn name)) ∧
    ∀ query cursor page, s.list query cursor = .ok page → page.next = none →
      ((∀ item, s.Awaits query cursor item → item ∈ page.items) ↔
        (s.config.maxPageSize = 0 → ∀ item, ¬s.Awaits query cursor item)) := by
  have wellFormed := reachable.wellFormed
  obtain ⟨container, found, rfl⟩ := Option.map_eq_some_iff.1 stored
  constructor
  · obtain ⟨pages, drained, all, blobs⟩ := drain_ofContainer wellFormed found
    refine ⟨pages, drained, all, ?_, ?_⟩
    · rw [blobs]
      by_cases zero : s.config.maxPageSize = 0
      · simp [zero, eq_comm]
      · simp [zero, NameTable.values, NameTable.size]
    · intro positive
      rw [blobs, if_neg positive, blobsIn_of_get? found]
  · intro query cursor page answered final
    by_cases zero : s.config.maxPageSize = 0
    · have empty := page_of_zero wellFormed zero answered
      subst empty
      simp [zero]
    · have shows := shows_of_list wellFormed (one_le_of_ne_zero zero) answered
      apply iff_of_true
      · intro item awaits
        apply shows.complete item awaits.1 awaits.2
        intro next continued
        cases final.symm.trans continued
      · exact fun none => absurd none zero

/-- A store with one blob whose pages are empty. -/
def unpaged : Store :=
  ((new ⟨0⟩).run [.createContainer "c", .put "c" "x" [] none .epoch]).2

/-- The drain of a container with a blob is over at once and returns nothing. -/
theorem exhausted_unshown :
    unpaged.Reachable ∧ unpaged.containerExists "c" = true ∧ unpaged.blobCount? "c" = some 1 ∧
      unpaged.listAll (Query.ofContainer "c") = .ok [] ∧
      unpaged.list (Query.ofContainer "c") none = .ok ⟨[], none⟩ ∧
      ∃ item, unpaged.Awaits (Query.ofContainer "c") none item := by
  refine ⟨⟨_, _, rfl⟩, rfl, rfl, rfl, rfl, ?_⟩
  obtain ⟨blob, stored⟩ : ∃ blob, unpaged.get "c" "x" = .ok blob := ⟨_, rfl⟩
  exact ⟨.blob blob, (lists_iff rfl rfl).2 (by cases stored; exact .head _), nofun⟩

/-- The same container in a store that allows pages of one blob is returned in full. -/
theorem exhausted_iff_paged :
    unpaged.Reachable ∧ unpaged.blobCount? "c" = some 1 ∧ sample.Reachable ∧
      sample.blobCount? "c" = some 3 ∧
      (∃ pages, unpaged.Drains (Query.ofContainer "c") none pages ∧
        (pages.flatMap Page.blobs).length ≠ 1) ∧
      ∃ pages, sample.Drains (Query.ofContainer "c") none pages ∧
        (pages.flatMap Page.blobs).length = 3 := by
  have reachable : unpaged.Reachable := ⟨_, _, rfl⟩
  have sampled : sample.Reachable := ⟨_, _, rfl⟩
  obtain ⟨⟨pages, drained, _, short, _⟩, _⟩ :=
    exhausted_iff reachable (show unpaged.blobCount? "c" = some 1 from rfl)
  obtain ⟨⟨others, redrained, _, full, _⟩, _⟩ :=
    exhausted_iff sampled (show sample.blobCount? "c" = some 3 from rfl)
  refine ⟨reachable, rfl, sampled, rfl, ⟨pages, drained, ?_⟩, others, redrained, full.2 ?_⟩
  · intro whole
    exact absurd (short.1 whole rfl) (by decide)
  · intro zero
    exact absurd zero (by decide)

end BlobDispatch.Store

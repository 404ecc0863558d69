import BlobDispatch.Proofs.Store.Listing
import BlobDispatch.Store.Drain

/-! Draining a query in one state. The pages are the full listing of the query cut into pages of
its length, the drain ends, and the function that drains within a limit reaches that end. -/

namespace BlobDispatch

namespace Store

open Listing

/-- From a cursor on, the pages cut what is left of the full listing. -/
private theorem drains_cuts {s : Store} (wellFormed : s.WellFormed) {query : Query}
    {size : UInt64} {target : Target} {container : Container}
    (sized : s.pageSize query = .ok size) (positive : 0 < size.toNat)
    (resolved : query.target = .ok target)
    (found : s.containers.get? target.container = some container) {count : Nat}
    {cursor : Option Cursor}
    (continued : ∀ given, cursor = some given → given.query = query ∧
      Text.startsWith target.namePrefix given.lastKey = true)
    (left : (remaining (listing target query.flat container.blobs.values)
      (cursor.map (·.lastKey))).length = count) :
    ∃ pages, s.Drains query cursor pages ∧ Cuts pages
      (remaining (listing target query.flat container.blobs.values) (cursor.map (·.lastKey)))
      size.toNat := by
  -- The measure is what is left of the listing: every page that has a next one shows an item.
  induction count using Nat.strongRecOn generalizing cursor with
  | ind count ih =>
    have listed := (list_eq_ok_iff wellFormed).2
      ⟨size, target, container, sized, resolved, found, continued, rfl⟩
    rcases firstPage_cases query (remaining (listing target query.flat container.blobs.values)
      (cursor.map (·.lastKey))) positive with
      ⟨fits, shape⟩ | ⟨shown, last, rest, split, filled, more, shape⟩
    · rw [shape] at listed
      exact ⟨_, .last listed rfl, cuts_last fits none⟩
    · rw [shape] at listed
      have ascending := listing_ascending target query.flat
        (values_ascending (wellFormed _ container found))
      have after := remaining_after ascending split
      have member : last ∈ listing target query.flat container.blobs.values := by
        have left : last ∈ remaining (listing target query.flat container.blobs.values)
            (cursor.map (·.lastKey)) := by simp [split]
        exact (mem_remaining_iff.1 left).1
      have fewer : rest.length < count := by
        rw [← left, split]
        simp
        omega
      have following : ∀ given, some (⟨query, last.key⟩ : Cursor) = some given →
          given.query = query ∧ Text.startsWith target.namePrefix given.lastKey = true := by
        intro given same
        cases same
        exact ⟨rfl, startsWith_key_of_mem_listing member⟩
      obtain ⟨pages, drained, cut⟩ := ih rest.length fewer following (by
        rw [Option.map_some, after])
      rw [Option.map_some, after] at cut
      refine ⟨_, .more listed rfl drained, ?_⟩
      rw [split]
      exact cuts_more _ filled more cut

theorem Drains.listed {s : Store} {query : Query} {cursor : Option Cursor} {pages : List Page}
    (drained : s.Drains query cursor pages) : ∃ page, s.list query cursor = .ok page := by
  cases drained with
  | last listed _ => exact ⟨_, listed⟩
  | more listed _ _ => exact ⟨_, listed⟩

/-- A drain is settled by the state, the query and the cursor it starts from. -/
theorem Drains.unique {s : Store} {query : Query} {cursor : Option Cursor}
    {pages others : List Page} (drained : s.Drains query cursor pages)
    (again : s.Drains query cursor others) : pages = others := by
  induction drained generalizing others with
  | last listed final =>
    cases again with
    | last relisted _ =>
      cases listed.symm.trans relisted
      rfl
    | more relisted continued _ =>
      cases listed.symm.trans relisted
      cases final.symm.trans continued
  | more listed continued _ ih =>
    cases again with
    | last relisted final =>
      cases listed.symm.trans relisted
      cases final.symm.trans continued
    | more relisted recontinued redrained =>
      cases listed.symm.trans relisted
      cases continued.symm.trans recontinued
      rw [ih redrained]

private theorem pagesFrom_of_drains {s : Store} {query : Query} {cursor : Option Cursor}
    {pages : List Page} (drained : s.Drains query cursor pages) {limit : Nat}
    (enough : pages.length ≤ limit) : s.pagesFrom query limit cursor = .ok pages := by
  induction drained generalizing limit with
  | last listed final =>
    obtain ⟨limit, rfl⟩ := Nat.exists_eq_add_of_le' enough
    simp [pagesFrom, listed, final, bind, Except.bind, pure, Except.pure]
  | more listed continued _ ih =>
    obtain ⟨limit, rfl⟩ := Nat.exists_eq_add_of_le' (Nat.le_trans (Nat.le_add_left 1 _) enough)
    have later : s.pagesFrom query limit _ = .ok _ := ih (by simpa using enough)
    simp [pagesFrom, listed, continued, later, bind, Except.bind, pure, Except.pure]

private theorem le_foldl_size (containers : List Container) (start : Nat) :
    start ≤ containers.foldl (fun total container => total + container.blobs.size) start := by
  induction containers generalizing start with
  | nil => exact Nat.le_refl start
  | cons container rest ih => exact Nat.le_trans (Nat.le_add_right _ _) (ih _)

theorem blobs_length_le_size {s : Store} {name : String} {container : Container}
    (found : s.containers.get? name = some container) :
    container.blobs.values.length ≤ s.size := by
  have member := NameTable.mem_values_iff.2 ⟨name, found⟩
  obtain ⟨before, after, split⟩ := List.append_of_mem member
  rw [Store.size, split, List.foldl_append, List.foldl_cons, NameTable.values, List.length_map]
  exact Nat.le_trans (Nat.le_add_left _ _) (le_foldl_size after _)

theorem exists_drain {s : Store} (wellFormed : s.WellFormed) {query : Query} {size : UInt64}
    {target : Target} {container : Container} (sized : s.pageSize query = .ok size)
    (positive : 0 < size.toNat) (resolved : query.target = .ok target)
    (found : s.containers.get? target.container = some container) :
    ∃ pages, s.Drains query none pages ∧ s.pages query = .ok pages ∧
      Cuts pages (listing target query.flat container.blobs.values) size.toNat := by
  have unstarted : ∀ given, (none : Option Cursor) = some given → given.query = query ∧
      Text.startsWith target.namePrefix given.lastKey = true := nofun
  obtain ⟨pages, drained, cut⟩ := drains_cuts wellFormed sized positive resolved found unstarted rfl
  refine ⟨pages, drained, pagesFrom_of_drains drained ?_, cut⟩
  have items := listing_length_le target query.flat container.blobs.values
  have blobs := blobs_length_le_size found
  have few : pages.length ≤ (listing target query.flat container.blobs.values).length + 1 :=
    cut.length_le positive
  omega

theorem pages_of_missing {s : Store} {query : Query} {size : UInt64} {target : Target}
    (sized : s.pageSize query = .ok size) (resolved : query.target = .ok target)
    (missing : s.containers.get? target.container = none) :
    s.pages query = .error (.containerNotFound target.container) := by
  have refused : s.list query none = .error (.containerNotFound target.container) := by
    simp [Store.list, sized, resolved, Store.container, missing, bind, Except.bind]
  simp [Store.pages, pagesFrom, refused, bind, Except.bind]

/-- A query is refused with its first page, or has a drain, which the function finds. -/
theorem pages_cases {s : Store} (wellFormed : s.WellFormed) (query : Query) :
    (∃ error, s.list query none = .error error ∧ s.pages query = .error error) ∨
      ∃ pages, s.Drains query none pages ∧ s.pages query = .ok pages := by
  cases answered : s.list query none with
  | error error =>
    refine .inl ⟨error, rfl, ?_⟩
    rw [Store.pages, pagesFrom, answered]
    rfl
  | ok page =>
    right
    obtain ⟨size, target, container, sized, resolved, found, _, same⟩ :=
      (list_eq_ok_iff wellFormed).1 answered
    rcases Nat.eq_zero_or_pos size.toNat with zero | positive
    · rw [zero, firstPage_zero] at same
      subst same
      refine ⟨_, .last answered rfl, ?_⟩
      rw [Store.pages, pagesFrom, answered]
      rfl
    · obtain ⟨pages, drained, all, _⟩ := exists_drain wellFormed sized positive resolved found
      exact ⟨pages, drained, all⟩

/-- The drain of a query is its full listing: for every state, and for whatever page length the
query asks for, the pages hold the entries of the listing, each once and in the order of the bytes
of their keys, and only the last page may be short. -/
theorem drain_eq_listing {s : Store} (reachable : s.Reachable)
    (positive : 1 ≤ s.config.maxPageSize) {query : Query} {target : Target}
    (resolved : query.target = .ok target)
    (stored : s.containerExists target.container = true) :
    ∃ entries : List Item,
      entries.Pairwise (fun a b => Text.bytes a.key < Text.bytes b.key) ∧
      (∀ item, item ∈ entries ↔ s.Lists query item) ∧
      ∀ limit : Option UInt64,
        (∀ asked, limit = some asked → 1 ≤ asked ∧ asked ≤ s.config.maxPageSize) →
        ∃ pages, s.Drains { query with maxResults := limit } none pages ∧
          (∀ others, s.Drains { query with maxResults := limit } none others → others = pages) ∧
          Cuts pages entries (limit.getD s.config.maxPageSize).toNat ∧
          s.listAll { query with maxResults := limit } =
            .ok (entries.filterMap Item.blob?) := by
  have wellFormed := reachable.wellFormed
  obtain ⟨container, found⟩ := Option.isSome_iff_exists.1 stored
  have ascending := listing_ascending target query.flat
    (values_ascending (wellFormed _ container found))
  refine ⟨listing target query.flat container.blobs.values, ?_, ?_, ?_⟩
  · exact ascending.imp Text.bytes_lt_bytes_iff.2
  · exact fun item => (lists_iff resolved found).symm
  · intro limit accepted
    obtain ⟨sized, long⟩ := pageSize_eq_ok positive query accepted
    obtain ⟨pages, drained, all, cut⟩ := exists_drain wellFormed sized long resolved found
    refine ⟨pages, drained, fun others redrained => redrained.unique drained, cut, ?_⟩
    rw [listAll, all, ← cut.blobs_eq]
    rfl

/-- A store with a blob beside a directory of two. -/
def sample : Store :=
  ((Store.new {}).run [.createContainer "c", .put "c" "a" [] none .epoch,
    .put "c" "d/x" [1] none .epoch, .put "c" "d/y" [] none .epoch]).2

theorem drain_eq_listing_sample :
    sample.Reachable ∧ 1 ≤ sample.config.maxPageSize ∧ sample.containerExists "c" = true ∧
      ∃ entries pages, (∀ item, item ∈ entries ↔
          sample.Lists (Query.ofContainer "c").hierarchical item) ∧
        sample.Drains { (Query.ofContainer "c").hierarchical with maxResults := some 1 } none
          pages ∧ Cuts pages entries 1 := by
  have reachable : sample.Reachable := ⟨{}, _, rfl⟩
  have positive : 1 ≤ sample.config.maxPageSize := by decide
  have stored : sample.containerExists "c" = true := by decide
  obtain ⟨entries, _, members, drains⟩ := drain_eq_listing reachable positive
    (show (Query.ofContainer "c").hierarchical.target = .ok ⟨"c", ""⟩ from rfl) stored
  have accepted : ∀ asked, some 1 = some asked → 1 ≤ asked ∧ asked ≤ sample.config.maxPageSize := by
    intro asked same
    cases same
    decide
  obtain ⟨pages, drained, _, cut, _⟩ := drains (some 1) accepted
  exact ⟨reachable, positive, stored, entries, pages, members, drained, cut⟩

end Store

end BlobDispatch

import BlobDispatch.Proofs.Listing.Cursor
import BlobDispatch.Proofs.Listing.Cut
import BlobDispatch.Proofs.Store.WellFormed

/-! One call of a listing on a store: when it answers and with which page. The page is a cut of the
full listing of the query in the state of the call, whatever the cursor's earlier state was. -/

namespace BlobDispatch

namespace Store

open Listing

/-- An item belongs to the full listing of a query in a state. -/
def Lists (s : Store) (query : Query) (item : Item) : Prop :=
  ∃ target container, query.target = .ok target ∧
    s.containers.get? target.container = some container ∧
      IsEntry target query.flat container.blobs.values item

theorem lists_iff {s : Store} {query : Query} {target : Target} {container : Container}
    (resolved : query.target = .ok target)
    (found : s.containers.get? target.container = some container) {item : Item} :
    s.Lists query item ↔ item ∈ listing target query.flat container.blobs.values := by
  rw [mem_listing_iff]
  constructor
  · intro lists
    obtain ⟨_, _, reresolved, refound, entry⟩ := lists
    cases resolved.symm.trans reresolved
    cases found.symm.trans refound
    exact entry
  · intro entry
    exact ⟨target, container, resolved, found, entry⟩

section Container

variable {containerName : String} {blobs : NameTable Blob}

private theorem name_of_mem (placed : Placed containerName blobs) {stored : String × Blob}
    (member : stored ∈ blobs.entries) : stored.2.name = stored.1 :=
  (placed stored.1 stored.2 (NameTable.get?_eq_some_iff.2 member)).name_eq

theorem values_ascending (placed : Placed containerName blobs) :
    blobs.values.Pairwise fun a b => a.name < b.name := by
  rw [NameTable.values, List.pairwise_map]
  refine blobs.ascending.imp_of_mem ?_
  intro a b first second below
  rwa [name_of_mem placed first, name_of_mem placed second]

private theorem filter_values (placed : Placed containerName blobs) (chosen : String → Bool) :
    (blobs.entries.filter fun stored => chosen stored.1).map (·.2) =
      blobs.values.filter fun blob => chosen blob.name := by
  rw [NameTable.values, List.filter_map]
  congr 1
  apply List.filter_congr
  intro stored member
  rw [Function.comp, name_of_mem placed member]

/-- The page of a call shows what the full listing has after the cursor's key. -/
private theorem page_eq_firstPage (placed : Placed containerName blobs) (query : Query)
    (target : Target) (cursor : Option Cursor)
    (continued : ∀ given, cursor = some given →
      Text.startsWith target.namePrefix given.lastKey = true) (size : Nat) :
    page query target
        ((match cursor with
          | none => blobs.atLeast target.namePrefix
          | some c => blobs.above c.lastKey).takeWhile fun blob =>
            Text.startsWith target.namePrefix blob.name) (cursor.map (·.lastKey)) size =
      firstPage query (remaining (listing target query.flat blobs.values)
        (cursor.map (·.lastKey))) size := by
  have ascending := values_ascending placed
  cases cursor with
  | none =>
    have low := filter_values placed fun name => decide (target.namePrefix ≤ name)
    simp only [NameTable.atLeast, low]
    exact page_first ascending size
  | some given =>
    have beyond := filter_values placed fun name => decide (given.lastKey < name)
    simp only [NameTable.above, beyond]
    exact page_after ascending (continued given rfl) size

end Container

private theorem validate_eq_ok_iff {cursor : Cursor} {query : Query} {target : Target}
    (resolved : query.target = .ok target) : cursor.validate query = .ok () ↔
      cursor.query = query ∧ Text.startsWith target.namePrefix cursor.lastKey = true := by
  rw [Cursor.validate_eq_ok_iff]
  simp [resolved]

/-- A call answers when the page size, the target and the cursor are accepted and the container
exists. Its page shows what the full listing has after the cursor's key. -/
theorem list_eq_ok_iff {s : Store} (wellFormed : s.WellFormed) {query : Query}
    {cursor : Option Cursor} {page : Page} : s.list query cursor = .ok page ↔
      ∃ size target container, s.pageSize query = .ok size ∧ query.target = .ok target ∧
        s.containers.get? target.container = some container ∧
        (∀ given, cursor = some given → given.query = query ∧
          Text.startsWith target.namePrefix given.lastKey = true) ∧
        page = firstPage query (remaining (listing target query.flat container.blobs.values)
          (cursor.map (·.lastKey))) size.toNat := by
  have shown {target : Target} {container : Container} (size : UInt64)
      (found : s.containers.get? target.container = some container)
      (continued : ∀ given, cursor = some given →
        Text.startsWith target.namePrefix given.lastKey = true) :=
    page_eq_firstPage (wellFormed _ container found) query target cursor continued size.toNat
  unfold Store.list
  cases cursor with
  | none =>
    simp only [bind_eq_ok_iff, container_eq_ok_iff, pure, Except.pure, Except.ok.injEq]
    constructor
    · intro answered
      obtain ⟨size, sized, target, resolved, container, found, rfl⟩ := answered
      exact ⟨size, target, container, sized, resolved, found, by simp, shown size found (by simp)⟩
    · intro accepted
      obtain ⟨size, target, container, sized, resolved, found, _, rfl⟩ := accepted
      exact ⟨size, sized, target, resolved, container, found, shown size found (by simp)⟩
  | some given =>
    simp only [bind_eq_ok_iff, container_eq_ok_iff, pure, Except.pure, Except.ok.injEq]
    constructor
    · intro answered
      obtain ⟨size, sized, target, resolved, ⟨⟩, valid, container, found, rfl⟩ := answered
      obtain ⟨same, begins⟩ := (validate_eq_ok_iff resolved).1 valid
      refine ⟨size, target, container, sized, resolved, found, ?_, shown size found ?_⟩
      · intro other again
        cases again
        exact ⟨same, begins⟩
      · intro other again
        cases again
        exact begins
    · intro accepted
      obtain ⟨size, target, container, sized, resolved, found, continued, rfl⟩ := accepted
      refine ⟨size, sized, target, resolved, (), ?_, container, found, shown size found ?_⟩
      · exact (validate_eq_ok_iff resolved).2 (continued given rfl)
      · exact fun other same => (continued other same).2

theorem pageSize_of_config {s t : Store} (same : t.config = s.config) (query : Query) :
    t.pageSize query = s.pageSize query := by
  rw [pageSize, pageSize, same]

theorem pageSize_eq_ok {s : Store} (positive : 1 ≤ s.config.maxPageSize) (query : Query)
    {limit : Option UInt64}
    (accepted : ∀ asked, limit = some asked → 1 ≤ asked ∧ asked ≤ s.config.maxPageSize) :
    s.pageSize { query with maxResults := limit } = .ok (limit.getD s.config.maxPageSize) ∧
      0 < (limit.getD s.config.maxPageSize).toNat := by
  cases limit with
  | none => exact ⟨rfl, UInt64.le_iff_toNat_le.1 positive⟩
  | some asked =>
    obtain ⟨least, most⟩ := accepted asked rfl
    have long : 0 < asked.toNat := UInt64.le_iff_toNat_le.1 least
    have nonzero : asked ≠ 0 := by
      intro zero
      rw [zero] at long
      exact absurd long (by decide)
    refine ⟨?_, long⟩
    simp only [pageSize, if_neg nonzero, if_neg (UInt64.not_lt.2 most), Option.getD_some]

theorem pageSize_pos {s : Store} (positive : 1 ≤ s.config.maxPageSize) {query : Query}
    {size : UInt64} (sized : s.pageSize query = .ok size) : 0 < size.toNat := by
  unfold pageSize at sized
  split at sized
  · cases sized
    exact UInt64.le_iff_toNat_le.1 positive
  · rename_i asked _
    split at sized
    · cases sized
    · rename_i nonzero
      split at sized
      · cases sized
      · cases sized
        apply Nat.pos_of_ne_zero
        intro zero
        exact nonzero (UInt64.toNat_inj.1 zero)

/-- What a page shows of the full listing in the state of its call. -/
structure Shows (s : Store) (query : Query) (cursor : Option Cursor) (page : Page) : Prop where
  ascending : page.items.Pairwise fun a b => a.key < b.key
  listed : ∀ item ∈ page.items, s.Lists query item
  beyond : ∀ item ∈ page.items, ∀ given, cursor = some given → given.lastKey < item.key
  within : ∀ item ∈ page.items, ∀ next, page.next = some next → item.key ≤ next.lastKey
  complete : ∀ item, s.Lists query item →
    (∀ given, cursor = some given → given.lastKey < item.key) →
    (∀ next, page.next = some next → item.key ≤ next.lastKey) → item ∈ page.items
  forward : ∀ given next, cursor = some given → page.next = some next →
    given.lastKey < next.lastKey

private theorem shows_last {s : Store} {query : Query} {cursor : Option Cursor} {items : List Item}
    (sorted : items.Pairwise fun a b => a.key < b.key)
    (left : ∀ item, item ∈ items ↔
      s.Lists query item ∧ ∀ given, cursor = some given → given.lastKey < item.key) :
    s.Shows query cursor ⟨items, none⟩ where
  ascending := sorted
  listed item member := ((left item).1 member).1
  beyond item member := ((left item).1 member).2
  within _ _ _ continued := by cases continued
  complete item listed beyond _ := (left item).2 ⟨listed, beyond⟩
  forward _ _ _ continued := by cases continued

private theorem shows_more {s : Store} {query : Query} {cursor : Option Cursor}
    {shown rest : List Item} {last : Item}
    (sorted : ((shown ++ [last]) ++ rest).Pairwise fun a b => a.key < b.key)
    (left : ∀ item, item ∈ (shown ++ [last]) ++ rest ↔
      s.Lists query item ∧ ∀ given, cursor = some given → given.lastKey < item.key) :
    s.Shows query cursor ⟨shown ++ [last], some ⟨query, last.key⟩⟩ := by
  obtain ⟨front, _, before⟩ := List.pairwise_append.1 sorted
  have inside {item : Item} (member : item ∈ shown ++ [last]) :=
    (left item).1 (List.mem_append_left rest member)
  have final : last ∈ shown ++ [last] := by simp
  refine ⟨front, fun _ member => (inside member).1, fun _ member => (inside member).2, ?_, ?_, ?_⟩
  · intro item member next continued
    cases continued
    rcases List.mem_append.1 member with early | here
    · exact Std.le_of_lt ((List.pairwise_append.1 front).2.2 item early last (by simp))
    · cases List.mem_singleton.1 here
      exact Std.le_refl _
  · intro item listed beyond reach
    rcases List.mem_append.1 ((left item).2 ⟨listed, beyond⟩) with here | later
    · exact here
    · have above := before last final item later
      exact absurd above (String.not_lt.2 (reach _ rfl))
  · intro given next same continued
    cases continued
    exact (inside final).2 given same

theorem shows_of_list {s : Store} (wellFormed : s.WellFormed)
    (positive : 1 ≤ s.config.maxPageSize) {query : Query} {cursor : Option Cursor} {page : Page}
    (answered : s.list query cursor = .ok page) : s.Shows query cursor page := by
  obtain ⟨size, target, container, sized, resolved, found, _, rfl⟩ :=
    (list_eq_ok_iff wellFormed).1 answered
  have sorted := remaining_ascending (cursor.map (·.lastKey)) (listing_ascending target query.flat
    (values_ascending (wellFormed _ container found)))
  have left (item : Item) : item ∈ remaining (listing target query.flat container.blobs.values)
      (cursor.map (·.lastKey)) ↔
        s.Lists query item ∧ ∀ given, cursor = some given → given.lastKey < item.key := by
    rw [mem_remaining_iff, lists_iff resolved found]
    cases cursor with
    | none => simp
    | some given => simp
  generalize remaining (listing target query.flat container.blobs.values)
    (cursor.map (·.lastKey)) = items at *
  rcases firstPage_cases query items (pageSize_pos positive sized) with
    ⟨_, shape⟩ | ⟨shown, last, rest, rfl, _, _, shape⟩
  · rw [shape]
    exact shows_last sorted left
  · have regroup : shown ++ last :: rest = (shown ++ [last]) ++ rest := by simp
    rw [regroup] at sorted
    simp only [regroup] at left
    rw [shape]
    exact shows_more sorted left

end Store

end BlobDispatch

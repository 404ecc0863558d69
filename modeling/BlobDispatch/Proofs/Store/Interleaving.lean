import BlobDispatch.Proofs.Store.Drain

/-! Draining a query while the store changes between the calls. What a page says, it says of the
state of its own call: it shows every entry of that state above the cursor's key and up to the next
cursor's key. The keys shown therefore ascend over the whole drain, and a key that is listed at
every call lies in the reach of exactly one of them. -/

namespace BlobDispatch.Store

open Listing

/-- The calls of a client that passes every next cursor back, each with the state it is made in and
the page it gets, while other operations run in between. The client may stop after any page. -/
inductive Interleaved (query : Query) : Option Cursor → Store → List (Store × Page) → Prop
  | call {cursor : Option Cursor} {s : Store} {page : Page}
      (answered : s.list query cursor = .ok page) : Interleaved query cursor s [(s, page)]
  | resume {cursor : Option Cursor} {s : Store} {page : Page} {next : Cursor}
      {operations : List Operation} {later : List (Store × Page)}
      (answered : s.list query cursor = .ok page) (continued : page.next = some next)
      (following : Interleaved query (some next) (s.run operations).2 later) :
      Interleaved query cursor s ((s, page) :: later)

def delivered (calls : List (Store × Page)) : List Item := calls.flatMap (·.2.items)

def Completed (calls : List (Store × Page)) : Prop :=
  ∃ call, calls.getLast? = some call ∧ call.2.next = none

def ListedThroughout (query : Query) (calls : List (Store × Page)) (key : String) : Prop :=
  ∀ call ∈ calls, ∃ item, call.1.Lists query item ∧ item.key = key

theorem delivered_singleton (call : Store × Page) : delivered [call] = call.2.items :=
  List.flatMap_singleton _ _

theorem delivered_cons (call : Store × Page) (later : List (Store × Page)) :
    delivered (call :: later) = call.2.items ++ delivered later := List.flatMap_cons

/-- Everything that follows a cursor has keys above it, and in ascending order. -/
private theorem delivered_above {s : Store} {query : Query} {cursor : Option Cursor}
    {calls : List (Store × Page)} (wellFormed : s.WellFormed)
    (positive : 1 ≤ s.config.maxPageSize) (drained : Interleaved query cursor s calls) :
    (delivered calls).Pairwise (fun a b => a.key < b.key) ∧
      ∀ item ∈ delivered calls, ∀ given, cursor = some given → given.lastKey < item.key := by
  induction drained with
  | call answered =>
    have shows := shows_of_list wellFormed positive answered
    rw [delivered_singleton]
    exact ⟨shows.ascending, shows.beyond⟩
  | @resume cursor s page next operations later answered continued _ ih =>
    have shows := shows_of_list wellFormed positive answered
    obtain ⟨ascending, above⟩ := ih (wellFormed_run operations wellFormed)
      (by rwa [config_run])
    rw [delivered_cons]
    constructor
    · refine List.pairwise_append.2 ⟨shows.ascending, ascending, ?_⟩
      intro early here item there
      exact Std.lt_of_le_of_lt (shows.within early here next continued) (above item there next rfl)
    · intro item member given same
      rcases List.mem_append.1 member with here | there
      · exact shows.beyond item here given same
      · exact String.lt_trans (shows.forward given next same continued) (above item there next rfl)

private theorem delivered_listed {s : Store} {query : Query} {cursor : Option Cursor}
    {calls : List (Store × Page)} (wellFormed : s.WellFormed)
    (positive : 1 ≤ s.config.maxPageSize) (drained : Interleaved query cursor s calls) :
    ∀ call ∈ calls, ∀ item ∈ call.2.items, call.1.Lists query item := by
  induction drained with
  | call answered =>
    intro call member
    rw [List.mem_singleton.1 member]
    exact (shows_of_list wellFormed positive answered).listed
  | resume answered _ _ ih =>
    intro call member
    rcases List.mem_cons.1 member with rfl | inside
    · exact (shows_of_list wellFormed positive answered).listed
    · exact ih (wellFormed_run _ wellFormed) (by rwa [config_run]) call inside

/-- A key above the cursor that is listed at every call is delivered: by this call if the page
reaches it, and else by a later one. -/
private theorem delivered_complete {s : Store} {query : Query} {cursor : Option Cursor}
    {calls : List (Store × Page)} (wellFormed : s.WellFormed)
    (positive : 1 ≤ s.config.maxPageSize) (drained : Interleaved query cursor s calls)
    (completed : Completed calls) {key : String}
    (above : ∀ given, cursor = some given → given.lastKey < key)
    (listed : ListedThroughout query calls key) :
    ∃ item ∈ delivered calls, item.key = key := by
  induction drained with
  | call answered =>
    have shows := shows_of_list wellFormed positive answered
    obtain ⟨item, present, rfl⟩ := listed _ List.mem_cons_self
    obtain ⟨_, ⟨⟩, final⟩ := completed
    refine ⟨item, ?_, rfl⟩
    have shown := shows.complete item present above (by
      intro next same
      cases final.symm.trans same)
    rwa [delivered_singleton]
  | @resume cursor s page next operations later answered continued following ih =>
    have shows := shows_of_list wellFormed positive answered
    by_cases reached : key ≤ next.lastKey
    · obtain ⟨item, present, rfl⟩ := listed _ List.mem_cons_self
      have shown := shows.complete item present above (by
        intro other same
        cases continued.symm.trans same
        exact reached)
      exact ⟨item, List.mem_append_left _ shown, rfl⟩
    · -- The key is above the next cursor, so the calls that follow have it to deliver.
      have completedLater : Completed later := by
        obtain ⟨call, ends, final⟩ := completed
        refine ⟨call, ?_, final⟩
        cases following with
        | call _ => simpa using ends
        | resume _ _ _ => simpa using ends
      have beyond : ∀ given, some next = some given → given.lastKey < key := by
        intro given same
        cases same
        exact String.not_le.1 reached
      obtain ⟨item, member, same⟩ := ih (wellFormed_run operations wellFormed)
        (by rwa [config_run]) completedLater beyond
        (fun call inside => listed call (List.mem_cons_of_mem _ inside))
      exact ⟨item, List.mem_append_right _ member, same⟩

/-- A drain between whose calls the store changes in any way delivers ascending keys, shows only
what is listed at the call, and, when it is completed, delivers every key that is listed at each of
its calls exactly once. -/
theorem interleaved_drain {s : Store} (reachable : s.Reachable)
    (positive : 1 ≤ s.config.maxPageSize) {query : Query} {calls : List (Store × Page)}
    (drained : Interleaved query none s calls) :
    (delivered calls).Pairwise (fun a b => Text.bytes a.key < Text.bytes b.key) ∧
      (∀ call ∈ calls, ∀ item ∈ call.2.items, call.1.Lists query item) ∧
      (Completed calls → ∀ key, ListedThroughout query calls key →
        ((delivered calls).map (·.key)).count key = 1) := by
  have wellFormed := reachable.wellFormed
  have ascending := (delivered_above wellFormed positive drained).1
  refine ⟨ascending.imp Text.bytes_lt_bytes_iff.2, delivered_listed wellFormed positive drained, ?_⟩
  intro completed key listed
  obtain ⟨item, member, same⟩ :=
    delivered_complete wellFormed positive drained completed nofun listed
  have distinct : ((delivered calls).map (·.key)).Nodup := by
    rw [List.Nodup, List.pairwise_map]
    refine ascending.imp ?_
    intro a b below equal
    rw [equal] at below
    exact String.lt_irrefl _ below
  rw [distinct.count, if_pos (List.mem_map.2 ⟨item, member, same⟩)]

/-- Between the two calls every blob of the directory is replaced by another one. -/
theorem interleaved_drain_replaced :
    sample.Reachable ∧ 1 ≤ sample.config.maxPageSize ∧
      ∃ calls, Interleaved ((Query.ofContainer "c").hierarchical.withMaxResults 1) none sample
          calls ∧ Completed calls ∧
        ListedThroughout ((Query.ofContainer "c").hierarchical.withMaxResults 1) calls "d/" ∧
        ((delivered calls).map (·.key)).count "d/" = 1 := by
  have reachable : sample.Reachable := ⟨{}, _, rfl⟩
  have positive : 1 ≤ sample.config.maxPageSize := by decide
  obtain ⟨first, answered, continued⟩ : ∃ page,
      sample.list ((Query.ofContainer "c").hierarchical.withMaxResults 1) none = .ok page ∧
      page.next = some ⟨(Query.ofContainer "c").hierarchical.withMaxResults 1, "a"⟩ :=
    ⟨_, rfl, rfl⟩
  have reanswered : (sample.run [.delete "c" "d/x", .delete "c" "d/y",
      .put "c" "d/z" [] none .epoch]).2.list
      ((Query.ofContainer "c").hierarchical.withMaxResults 1)
      (some ⟨(Query.ofContainer "c").hierarchical.withMaxResults 1, "a"⟩) =
        .ok ⟨[.directory "c" "d/"], none⟩ := rfl
  have drained := Interleaved.resume answered continued (.call reanswered)
  refine ⟨reachable, positive, _, drained, ⟨_, rfl, rfl⟩, ?_⟩
  refine (and_iff_left_of_imp
    ((interleaved_drain reachable positive drained).2.2 ⟨_, rfl, rfl⟩ "d/")).2 ?_
  intro call member
  rcases List.mem_cons.1 member with rfl | inside
  · exact ⟨.directory "c" "d/", (lists_iff rfl rfl).2 (.tail _ (.head _)), rfl⟩
  · rw [List.mem_singleton.1 inside]
    exact ⟨.directory "c" "d/", (lists_iff rfl rfl).2 (.tail _ (.head _)), rfl⟩

end BlobDispatch.Store

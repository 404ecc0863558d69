import BlobDispatch.Proofs.Listing.Expansion
import BlobDispatch.Proofs.Store.Drain
import BlobDispatch.Proofs.Store.Walk

/-! Walking the directories of a container level by level. The walk of a prefix drains its level
and puts, in the place of every directory, the walk of that directory. It ends, since directories
only get longer and each has a blob below it, and it gives what the flat listing of the prefix
gives. Every level may be asked for in pages of another length. -/

namespace BlobDispatch.Store

open Listing

/-- A query for a target, all of it or one level, with a page length that the store allows. -/
structure Asks (s : Store) (query : Query) (target : Target) (flat : Bool) : Prop where
  target_eq : query.target = .ok target
  flat_eq : query.flat = flat
  accepted : ∀ asked, query.maxResults = some asked → 1 ≤ asked ∧ asked ≤ s.config.maxPageSize

/-- Items with every directory replaced by its walk. `asks` is the query for each level. -/
inductive Expands (s : Store) (asks : Target → Query) : List Item → List Blob → Prop
  | nil : Expands s asks [] []
  | blob {stored : Blob} {rest : List Item} {blobs : List Blob}
      (later : Expands s asks rest blobs) : Expands s asks (.blob stored :: rest) (stored :: blobs)
  | directory {container namePrefix : String} {pages : List Page} {rest : List Item}
      {inner outer : List Blob} (drained : s.Drains (asks ⟨container, namePrefix⟩) none pages)
      (inside : Expands s asks (pages.flatMap (·.items)) inner)
      (later : Expands s asks rest outer) :
      Expands s asks (.directory container namePrefix :: rest) (inner ++ outer)

/-- The walk of a target: its level drained and expanded. -/
def Walks (s : Store) (asks : Target → Query) (target : Target) (blobs : List Blob) : Prop :=
  ∃ pages, s.Drains (asks target) none pages ∧ s.Expands asks (pages.flatMap (·.items)) blobs

/-- The level of one target shows the other as a directory. -/
def Opens (s : Store) (asks : Target → Query) (target inner : Target) : Prop :=
  ∃ pages, s.Drains (asks target) none pages ∧
    .directory inner.container inner.namePrefix ∈ pages.flatMap (·.items)

section Walks

variable {s : Store} {asks : Target → Query} {name : String} {container : Container}

theorem Expands.unique {items : List Item} {blobs others : List Blob}
    (expanded : s.Expands asks items blobs) (again : s.Expands asks items others) :
    others = blobs := by
  induction expanded generalizing others with
  | nil =>
    cases again
    rfl
  | blob _ ih =>
    cases again with
    | blob later => rw [ih later]
  | directory drained _ _ insideIh laterIh =>
    cases again with
    | directory redrained inside later =>
      cases drained.unique redrained
      rw [insideIh inside, laterIh later]

theorem Walks.unique {target : Target} {blobs others : List Blob}
    (walked : s.Walks asks target blobs) (again : s.Walks asks target others) :
    others = blobs := by
  obtain ⟨_, drained, expanded⟩ := walked
  obtain ⟨_, redrained, reexpanded⟩ := again
  cases drained.unique redrained
  exact expanded.unique reexpanded

private theorem exists_items (wellFormed : s.WellFormed) (positive : 1 ≤ s.config.maxPageSize)
    {target : Target} (found : s.containers.get? target.container = some container)
    {query : Query} {flat : Bool} (asked : s.Asks query target flat) :
    ∃ pages, s.Drains query none pages ∧ s.pages query = .ok pages ∧
      pages.flatMap (·.items) = listing target flat container.blobs.values := by
  obtain ⟨sized, long⟩ := pageSize_eq_ok positive query asked.accepted
  obtain ⟨pages, drained, all, cut⟩ := exists_drain wellFormed sized long asked.target_eq found
  refine ⟨pages, drained, all, ?_⟩
  rw [cut.whole, asked.flat_eq]

private theorem exists_longest (blobs : List Blob) :
    ∃ longest, ∀ blob ∈ blobs, blob.name.toList.length ≤ longest := by
  induction blobs with
  | nil => exact ⟨0, fun _ member => by cases member⟩
  | cons first rest ih =>
    obtain ⟨longest, bounded⟩ := ih
    refine ⟨max first.name.toList.length longest, ?_⟩
    intro blob member
    rcases List.mem_cons.1 member with rfl | inside
    · exact Nat.le_max_left _ _
    · exact Nat.le_trans (bounded blob inside) (Nat.le_max_right _ _)

private theorem expands_of_walks {blobs : List Blob} {items : List Item}
    (walks : ∀ inner namePrefix, .directory inner namePrefix ∈ items →
      s.Walks asks ⟨inner, namePrefix⟩
        (blobs.filter fun blob => Text.startsWith namePrefix blob.name)) :
    s.Expands asks items (items.flatMap (Item.under blobs)) := by
  induction items with
  | nil => exact .nil
  | cons item rest ih =>
    have later := ih fun inner namePrefix member =>
      walks inner namePrefix (List.mem_cons_of_mem _ member)
    cases item with
    | blob stored => exact .blob later
    | directory inner namePrefix =>
      obtain ⟨_, drained, inside⟩ := walks inner namePrefix List.mem_cons_self
      exact .directory drained inside later

private theorem walks_prefix (wellFormed : s.WellFormed) (positive : 1 ≤ s.config.maxPageSize)
    (found : s.containers.get? name = some container)
    (levels : ∀ target, s.Asks (asks target) target false) {longest : Nat}
    (bounded : ∀ blob ∈ container.blobs.values, blob.name.toList.length ≤ longest)
    (namePrefix : String) {left : Nat} (measure : longest - namePrefix.toList.length = left) :
    s.Walks asks ⟨name, namePrefix⟩
      (container.blobs.values.filter fun blob => Text.startsWith namePrefix blob.name) := by
  -- The measure is how much longer than the prefix a name can be: a directory is longer than the
  -- prefix it is listed under, and no longer than the name of a blob in it.
  induction left using Nat.strongRecOn generalizing namePrefix with
  | ind left ih =>
    have level := levels ⟨name, namePrefix⟩
    obtain ⟨pages, drained, _, items⟩ := exists_items wellFormed positive found level
    refine ⟨pages, drained, ?_⟩
    rw [items, ← flatMap_under ⟨name, namePrefix⟩
      (values_ascending (wellFormed _ container found))]
    apply expands_of_walks
    intro inner deeper listed
    obtain ⟨rfl, ⟨deep, split⟩, blob, stored, begins⟩ := directory_of_mem_listing listed
    have short := (Text.startsWith_iff.1 begins).length_le
    have within := bounded blob stored
    have longer : deeper.toList.length = namePrefix.toList.length + deep.length + 1 := by
      rw [split, List.length_append, List.length_append, List.length_singleton]
    exact ih (longest - deeper.toList.length) (by omega) deeper rfl

structure Deeper (blobs : List Blob) (target inner : Target) : Prop where
  container_eq : inner.container = target.container
  begins : Text.startsWith target.namePrefix inner.namePrefix = true
  longer : target.namePrefix.length < inner.namePrefix.length
  separated : inner.namePrefix.toList.getLast? = some '/'
  nonempty : ∃ blob ∈ blobs, Text.startsWith inner.namePrefix blob.name = true

private theorem deeper_of_opens (wellFormed : s.WellFormed)
    (positive : 1 ≤ s.config.maxPageSize) (levels : ∀ target, s.Asks (asks target) target false)
    {target inner : Target} (found : s.containers.get? target.container = some container)
    (opens : s.Opens asks target inner) : Deeper container.blobs.values target inner := by
  obtain ⟨pages, drained, listed⟩ := opens
  obtain ⟨_, redrained, _, items⟩ := exists_items wellFormed positive found (levels target)
  cases drained.unique redrained
  rw [items] at listed
  obtain ⟨same, ⟨level, split⟩, below⟩ := directory_of_mem_listing listed
  refine ⟨same, ?_, ?_, ?_, below⟩
  · rw [Text.startsWith_iff, split, List.append_assoc]
    exact List.prefix_append _ _
  · rw [← String.length_toList, ← String.length_toList, split]
    simp
  · rw [split, List.getLast?_concat]

private theorem deeper_of_transGen (wellFormed : s.WellFormed)
    (positive : 1 ≤ s.config.maxPageSize) (levels : ∀ target, s.Asks (asks target) target false)
    {target inner : Target} (found : s.containers.get? target.container = some container)
    (opens : Relation.TransGen (s.Opens asks) target inner) :
    Deeper container.blobs.values target inner := by
  induction opens with
  | single opens => exact deeper_of_opens wellFormed positive levels found opens
  | tail _ opens ih =>
    rw [← ih.container_eq] at found
    have step := deeper_of_opens wellFormed positive levels found opens
    exact ⟨step.container_eq.trans ih.container_eq, Text.startsWith_trans ih.begins step.begins,
      Nat.lt_trans ih.longer step.longer, step.separated, step.nonempty⟩

end Walks

/-- The walk of the directories under a prefix is the flat listing of the prefix. In every state
and for every choice of page lengths the walk ends, in one way only, with the blobs under the
prefix, each once and in the order of their names, and a flat listing of the prefix drains to the
same blobs. Every directory on the way lies under the prefix and is longer, ends in a separator and
has a blob of the result below it. -/
theorem walk_eq_flat {s : Store} (reachable : s.Reachable) (positive : 1 ≤ s.config.maxPageSize)
    {target : Target} (stored : s.containerExists target.container = true)
    {asks : Target → Query} (levels : ∀ level, s.Asks (asks level) level false) :
    ∃ blobs, s.Walks asks target blobs ∧
      (∀ others, s.Walks asks target others → others = blobs) ∧
      (∀ query, s.Asks query target true → ∃ pages, s.Drains query none pages ∧
        pages.flatMap Page.blobs = blobs ∧ s.listAll query = .ok blobs) ∧
      blobs.Pairwise (fun a b => Text.bytes a.name < Text.bytes b.name) ∧
      (∀ blob, blob ∈ blobs ↔ blob.container = target.container ∧
        s.get target.container blob.name = .ok blob ∧
        Text.startsWith target.namePrefix blob.name = true) ∧
      ∀ directory, Relation.TransGen (s.Opens asks) target directory →
        Deeper blobs target directory := by
  have wellFormed := reachable.wellFormed
  obtain ⟨container, found⟩ := Option.isSome_iff_exists.1 stored
  obtain ⟨_, bounded⟩ := exists_longest container.blobs.values
  have ascending := values_ascending (wellFormed _ container found)
  have walked := walks_prefix wellFormed positive found levels bounded target.namePrefix rfl
  refine ⟨_, walked, fun others again => walked.unique again, ?_, ?_, ?_, ?_⟩
  · intro query asked
    obtain ⟨pages, drained, all, items⟩ := exists_items wellFormed positive found asked
    have blobs : pages.flatMap Page.blobs = container.blobs.values.filter fun blob =>
        Text.startsWith target.namePrefix blob.name := by
      rw [← blobs_listing_flat, ← items, List.filterMap_flatMap]
      rfl
    refine ⟨pages, drained, blobs, ?_⟩
    rw [listAll, all, ← blobs]
    rfl
  · exact (ascending.filter _).imp Text.bytes_lt_bytes_iff.2
  · intro blob
    rw [List.mem_filter, ← blobsIn_of_get? found, mem_blobsIn_iff wellFormed, and_assoc]
  · intro directory met
    have deeper := deeper_of_transGen wellFormed positive levels found met
    obtain ⟨blob, there, below⟩ := deeper.nonempty
    have begins := Text.startsWith_trans deeper.begins below
    exact { deeper with nonempty := ⟨blob, List.mem_filter.2 ⟨there, begins⟩, below⟩ }

/-- A store with an empty level in the middle of a name, and a prefix inside of a level. -/
def nested : Store :=
  ((new {}).run [.createContainer "c", .put "c" "ab/c" [] none .epoch,
    .put "c" "a//b" [] none .epoch, .put "c" "a/" [] none .epoch, .put "c" "a" [] none .epoch,
    .put "c" "b" [] none .epoch]).2

/-- Levels in pages of two items, but one of them in a single page. -/
def byTwos (level : Target) : Query :=
  ⟨.container level.container, level.namePrefix, false,
    if level.namePrefix = "a/" then none else some 2⟩

theorem walk_eq_flat_nested :
    nested.Reachable ∧ 1 ≤ nested.config.maxPageSize ∧ nested.containerExists "c" = true ∧
      (∀ level, nested.Asks (byTwos level) level false) ∧
      ∃ blobs, nested.Walks byTwos ⟨"c", "a"⟩ blobs ∧
        blobs.map (·.name) = ["a", "a/", "a//b", "ab/c"] ∧
        Deeper blobs ⟨"c", "a"⟩ ⟨"c", "a//"⟩ := by
  have reachable : nested.Reachable := ⟨{}, _, rfl⟩
  have positive : 1 ≤ nested.config.maxPageSize := by decide
  have stored : nested.containerExists "c" = true := rfl
  have levels (level : Target) : nested.Asks (byTwos level) level false := by
    refine ⟨rfl, rfl, ?_⟩
    intro asked limit
    unfold byTwos at limit
    split at limit
    · cases limit
    · cases limit
      decide
  obtain ⟨blobs, walked, _, flat, _, _, directories⟩ :=
    walk_eq_flat reachable positive (show nested.containerExists (Target.mk "c" "a").container =
      true from stored) levels
  obtain ⟨_, _, _, all⟩ := flat ((Query.ofContainer "c").withPrefix "a") ⟨rfl, rfl, nofun⟩
  have names : (nested.listAll ((Query.ofContainer "c").withPrefix "a")).map
      (·.map (·.name)) = .ok ["a", "a/", "a//b", "ab/c"] := rfl
  rw [all] at names
  have outer : nested.Opens byTwos ⟨"c", "a"⟩ ⟨"c", "a/"⟩ :=
    ⟨_, .more rfl rfl (.last rfl rfl), .tail _ (.head _)⟩
  have inner : nested.Opens byTwos ⟨"c", "a/"⟩ ⟨"c", "a//"⟩ :=
    ⟨_, .last rfl rfl, .tail _ (.head _)⟩
  exact ⟨reachable, positive, stored, levels, blobs, walked, Except.ok.inj names,
    directories _ (.tail (.single outer) inner)⟩

end BlobDispatch.Store

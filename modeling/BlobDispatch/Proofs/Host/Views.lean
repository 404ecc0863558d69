import BlobDispatch.Host.Scanner
import BlobDispatch.Proofs.Store.Answers
import BlobDispatch.Proofs.Store.Exhaustion
import Mathlib.Algebra.GroupWithZero.Nat

/-! The views of a store. Its blobs can be read at an address, page by page and through a scan, and
its containers are named, asked for, counted and drained. All of this is read from the one table of
containers, and where a blob says itself what the table says, the two agree. -/

namespace BlobDispatch

namespace Scanner

variable {s : Store} {scanner : Scanner} {trigger : Trigger} {found : List Invocation}

private theorem exists_of_mapM {ε α β : Type} {step : α → Except ε β} {items : List α}
    {results : List β} (done : items.mapM step = .ok results) {result : β}
    (member : result ∈ results) : ∃ item ∈ items, step item = .ok result := by
  induction items generalizing results with
  | nil =>
    cases done
    cases member
  | cons item rest ih =>
    rw [List.mapM_cons] at done
    obtain ⟨first, here, done⟩ := bind_eq_ok_iff.1 done
    obtain ⟨later, there, same⟩ := bind_eq_ok_iff.1 done
    cases same
    rcases List.mem_cons.1 member with rfl | inside
    · exact ⟨item, List.mem_cons_self, here⟩
    · obtain ⟨other, present, same⟩ := ih there inside
      exact ⟨other, List.mem_cons_of_mem _ present, same⟩

theorem get_of_scanContainer (wellFormed : s.WellFormed) {name : String}
    (done : scanner.scanContainer s trigger name = .ok found) {invocation : Invocation}
    (member : invocation ∈ found) : s.get name invocation.blob.name = .ok invocation.blob := by
  unfold scanContainer at done
  split at done
  · rename_i listed
    cases done
    obtain ⟨blob, shown, bound⟩ := List.mem_filterMap.1 member
    obtain ⟨_, _, rfl⟩ := Option.map_eq_some_iff.1 bound
    obtain ⟨_, resolved, stored⟩ := Store.get_of_pages wellFormed listed shown
    cases resolved
    exact stored
  · cases done
    cases member
  · cases done

/-- What a scan finds is stored in a container that it looks into. -/
theorem get_of_scan (wellFormed : s.WellFormed) (done : scanner.scan s trigger = .ok found)
    {invocation : Invocation} (member : invocation ∈ found) :
    ∃ name ∈ scanner.containers s trigger,
      s.get name invocation.blob.name = .ok invocation.blob := by
  obtain ⟨parts, scanned, same⟩ := bind_eq_ok_iff.1 done
  cases same
  obtain ⟨part, there, inside⟩ := List.mem_flatten.1 member
  obtain ⟨name, chosen, looked⟩ := exists_of_mapM scanned there
  exact ⟨name, chosen, get_of_scanContainer wellFormed looked inside⟩

theorem get_of_scanRegistry (wellFormed : s.WellFormed) {registry : Registry}
    (done : scanner.scanRegistry s registry = .ok found) {invocation : Invocation}
    (member : invocation ∈ found) : ∃ trigger ∈ registry.triggers,
      ∃ name ∈ scanner.containers s trigger,
        s.get name invocation.blob.name = .ok invocation.blob := by
  obtain ⟨parts, scanned, same⟩ := bind_eq_ok_iff.1 done
  cases same
  obtain ⟨part, there, inside⟩ := List.mem_flatten.1 (List.mem_filter.1 member).1
  obtain ⟨trigger, registered, looked⟩ := exists_of_mapM scanned there
  exact ⟨trigger, registered, get_of_scan wellFormed looked inside⟩

theorem holds_of_scan (wellFormed : s.WellFormed) (done : scanner.scan s trigger = .ok found)
    {invocation : Invocation} (member : invocation ∈ found) : s.Holds invocation.blob := by
  obtain ⟨_, _, stored⟩ := get_of_scan wellFormed done member
  exact Store.holds_of_get wellFormed stored

theorem holds_of_scanRegistry (wellFormed : s.WellFormed) {registry : Registry}
    (done : scanner.scanRegistry s registry = .ok found) {invocation : Invocation}
    (member : invocation ∈ found) : s.Holds invocation.blob := by
  obtain ⟨_, _, _, _, stored⟩ := get_of_scanRegistry wellFormed done member
  exact Store.holds_of_get wellFormed stored

end Scanner

namespace Store

open Listing

/-- The blob is what a read of the address gives, and it agrees with that address and with its own
content. The recorded length is a number below 2 ^ 64, as is that of every content in memory. -/
structure Records (s : Store) (container name : String) (blob : Blob) : Prop
    extends blob.IsAt container name where
  stored : s.get container name = .ok blob
  counted : blob.content.length < 2 ^ 64 → blob.length.toNat = blob.content.length

section Views

variable {s : Store}

theorem records_of_get (wellFormed : s.WellFormed) {container name : String} {blob : Blob}
    (stored : s.get container name = .ok blob) : s.Records container name blob := by
  have placed := wellFormed.isAt_of_get stored
  refine ⟨placed, stored, ?_⟩
  intro bounded
  rw [Blob.length, placed.length_eq, UInt64.toNat_ofNat_of_lt' bounded]

theorem records_of_put (wellFormed : s.WellFormed) {next : Store} {container name : String}
    {content : List UInt8} {metadata : Option Metadata} {now : Timestamp} {blob : Blob}
    (done : s.put container name content metadata now = .ok (blob, next)) :
    next.Records container name blob := by
  have stored : next.blob? container name = some blob := by
    rw [blob?_put done, if_pos ⟨rfl, rfl⟩]
  exact records_of_get (wellFormed_of_effect (.put done) wellFormed)
    (get_eq_ok_iff.2 (blob?_eq_some_iff.1 stored))

theorem records_of_item (wellFormed : s.WellFormed) {query : Query} {cursor : Option Cursor}
    {page : Page} (done : s.list query cursor = .ok page) {item : Item} (shown : item ∈ page.items)
    {blob : Blob} (isBlob : item.blob? = some blob) :
    ∃ target, query.target = .ok target ∧ s.Records target.container item.key blob := by
  cases item with
  | directory _ _ => cases isBlob
  | blob listed =>
    cases isBlob
    obtain ⟨target, resolved, stored⟩ := get_of_list wellFormed done (mem_blobs_iff.2 shown)
    exact ⟨target, resolved, records_of_get wellFormed stored⟩

theorem mem_containerNames_iff {name : String} :
    name ∈ s.containerNames ↔ s.containerExists name = true :=
  NameTable.mem_names_iff.trans Option.isSome_iff_exists.symm

/-- The drain of a container is its table, and fails just when there is none. -/
theorem listAll_ofContainer (wellFormed : s.WellFormed) (positive : 1 ≤ s.config.maxPageSize)
    (name : String) : s.listAll (Query.ofContainer name) =
      (s.container name).map fun container => container.blobs.values := by
  cases found : s.containers.get? name with
  | none =>
    have refused : s.pages (Query.ofContainer name) = .error (.containerNotFound name) :=
      pages_of_missing rfl (show _ = Except.ok ⟨name, ""⟩ from rfl) found
    simp [listAll, refused, Store.container, found, Except.map]
  | some container =>
    have nonzero : s.config.maxPageSize ≠ 0 := by
      intro zero
      rw [zero] at positive
      exact absurd positive (by decide)
    obtain ⟨pages, _, all, blobs⟩ := drain_ofContainer wellFormed found
    rw [all, blobs, if_neg nonzero, container_eq_ok_iff.2 found]
    rfl

theorem blobCount?_eq_some_iff (wellFormed : s.WellFormed) (positive : 1 ≤ s.config.maxPageSize)
    {name : String} {count : Nat} : s.blobCount? name = some count ↔
      ∃ blobs, s.listAll (Query.ofContainer name) = .ok blobs ∧ blobs.length = count := by
  simp only [listAll_ofContainer wellFormed positive, map_eq_ok_iff, container_eq_ok_iff,
    blobCount?, Option.map_eq_some_iff]
  constructor
  · rintro ⟨container, found, rfl⟩
    exact ⟨_, ⟨container, found, rfl⟩, List.length_map _⟩
  · rintro ⟨_, ⟨container, found, rfl⟩, rfl⟩
    exact ⟨container, found, (List.length_map _).symm⟩

theorem mem_listAll_iff (wellFormed : s.WellFormed) (positive : 1 ≤ s.config.maxPageSize)
    {name : String} {blobs : List Blob}
    (drained : s.listAll (Query.ofContainer name) = .ok blobs) {blob : Blob} :
    blob ∈ blobs ↔ s.get name blob.name = .ok blob := by
  rw [listAll_ofContainer wellFormed positive] at drained
  obtain ⟨container, found, rfl⟩ := map_eq_ok_iff.1 drained
  rw [← blobsIn_of_get? (container_eq_ok_iff.1 found), mem_blobsIn_iff wellFormed]
  constructor
  · exact And.right
  · exact fun stored => ⟨(records_of_get wellFormed stored).container_eq, stored⟩

theorem size_eq_sum : ∃ counts : List Nat,
    s.containerNames.map s.blobCount? = counts.map some ∧ s.size = counts.sum := by
  refine ⟨s.containers.values.map (·.blobs.size), ?_, ?_⟩
  · simp only [containerNames, NameTable.names, NameTable.values, List.map_map]
    apply List.map_congr_left
    intro entry member
    simp [blobCount?, NameTable.get?_eq_some_iff.2 member]
  · rw [List.sum_eq_foldl_nat, List.foldl_map, size]

end Views

/-- All views of a state are the same. A blob that is read at an address, written, met on a page, in
a drain or in a scan is the one stored at its address, under its own container and name and with
its length counted. The names of containers ascend and are those of the containers that exist. Where
pages may hold a blob, a container counts just the blobs that its drain returns, which are those
that can be read in it, and the total is the sum of the counts under all names. -/
theorem views_agree {s : Store} (reachable : s.Reachable) :
    (∀ container name blob, s.get container name = .ok blob → s.Records container name blob) ∧
    (∀ container name content metadata now blob next,
      s.put container name content metadata now = .ok (blob, next) →
        next.Records container name blob ∧ blob.content = content) ∧
    (∀ query cursor page, s.list query cursor = .ok page →
      ∀ item ∈ page.items, ∀ blob, item.blob? = some blob →
        ∃ target, query.target = .ok target ∧ s.Records target.container item.key blob) ∧
    (∀ query blobs, s.listAll query = .ok blobs → ∀ blob ∈ blobs,
      ∃ target, query.target = .ok target ∧ s.Records target.container blob.name blob) ∧
    (∀ (scanner : Scanner) trigger found, scanner.scan s trigger = .ok found →
      ∀ invocation ∈ found, ∃ container ∈ scanner.containers s trigger,
        s.Records container invocation.blob.name invocation.blob) ∧
    (∀ (scanner : Scanner) registry found, scanner.scanRegistry s registry = .ok found →
      ∀ invocation ∈ found, ∃ trigger ∈ registry.triggers,
        ∃ container ∈ scanner.containers s trigger,
          s.Records container invocation.blob.name invocation.blob) ∧
    s.containerNames.Pairwise (fun a b => Text.bytes a < Text.bytes b) ∧
    (∀ name, name ∈ s.containerNames ↔ s.containerExists name = true) ∧
    (1 ≤ s.config.maxPageSize → ∀ name,
      (∀ count, s.blobCount? name = some count ↔
        ∃ blobs, s.listAll (Query.ofContainer name) = .ok blobs ∧ blobs.length = count) ∧
      ∀ blobs, s.listAll (Query.ofContainer name) = .ok blobs →
        ∀ blob, blob ∈ blobs ↔ s.get name blob.name = .ok blob) ∧
    ∃ counts : List Nat,
      s.containerNames.map s.blobCount? = counts.map some ∧ s.size = counts.sum := by
  have wellFormed := reachable.wellFormed
  refine ⟨fun _ _ _ => records_of_get wellFormed, ?_, ?_, ?_, ?_, ?_,
    s.containers.names_ascending.imp Text.bytes_lt_bytes_iff.2,
    fun _ => mem_containerNames_iff,
    fun positive _ => ⟨fun _ => blobCount?_eq_some_iff wellFormed positive,
      fun _ drained _ => mem_listAll_iff wellFormed positive drained⟩, size_eq_sum⟩
  · intro container name content metadata now blob next done
    refine ⟨records_of_put wellFormed done, ?_⟩
    obtain ⟨_, _, _, rfl, _⟩ := put_eq_ok_iff.1 done
    rfl
  · intro query cursor page done item shown blob isBlob
    exact records_of_item wellFormed done shown isBlob
  · intro query blobs done blob member
    obtain ⟨pages, drained, rfl⟩ := map_eq_ok_iff.1 done
    obtain ⟨target, resolved, stored⟩ := get_of_pages wellFormed drained member
    exact ⟨target, resolved, records_of_get wellFormed stored⟩
  · intro scanner trigger found done invocation member
    obtain ⟨container, looked, stored⟩ := Scanner.get_of_scan wellFormed done member
    exact ⟨container, looked, records_of_get wellFormed stored⟩
  · intro scanner registry found done invocation member
    obtain ⟨trigger, registered, container, looked, stored⟩ :=
      Scanner.get_of_scanRegistry wellFormed done member
    exact ⟨trigger, registered, container, looked, records_of_get wellFormed stored⟩

/-- A store in which a blob was overwritten, one deleted and a container created before one whose
name comes first. -/
private def shelved : Store :=
  ((new {}).run [.createContainer "b", .createContainer "a", .put "b" "x" [1] none .epoch,
    .put "b" "y" [] none .epoch, .put "b" "x" [2, 3] none .epoch, .delete "b" "y",
    .put "a" "z" [4] none .epoch]).2

theorem views_agree_shelved :
    shelved.Reachable ∧ 1 ≤ shelved.config.maxPageSize ∧
      (∃ blob blobs, shelved.get "b" "x" = .ok blob ∧ blob.content = [2, 3] ∧
        blob.length.toNat = 2 ∧ blob.container = "b" ∧ blob.name = "x" ∧
        shelved.listAll (Query.ofContainer "b") = .ok blobs ∧ blobs.length = 1 ∧ blob ∈ blobs) ∧
      shelved.containerNames = ["a", "b"] ∧
      ∃ counts : List Nat,
        shelved.containerNames.map shelved.blobCount? = counts.map some ∧ counts.sum = 2 := by
  have reachable : shelved.Reachable := ⟨{}, _, rfl⟩
  have positive : 1 ≤ shelved.config.maxPageSize := by decide
  obtain ⟨read, _, _, _, _, _, _, _, drains, counts, each, total⟩ := views_agree reachable
  obtain ⟨blob, stored, content⟩ : ∃ blob, shelved.get "b" "x" = .ok blob ∧
      blob.content = [2, 3] := ⟨_, rfl, rfl⟩
  have records := read "b" "x" blob stored
  have long := records.counted (by rw [content]; decide)
  rw [content] at long
  obtain ⟨counted, members⟩ := drains positive "b"
  obtain ⟨blobs, drained, single⟩ := (counted 1).1 rfl
  have inside : blob ∈ blobs := (members blobs drained blob).2 (by rwa [records.name_eq])
  refine ⟨reachable, positive, ⟨blob, blobs, stored, content, long, records.container_eq,
    records.name_eq, drained, single, inside⟩, rfl, counts, each, ?_⟩
  rw [← total]
  rfl

end Store

end BlobDispatch

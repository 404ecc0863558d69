import BlobDispatch.Proofs.Store.Listing
import Mathlib.Data.List.Nodup

/-! Walking a store without any listing: container by container in the order of their names, and
through each of them blob by blob. A walk that leaves containers out meets all other blobs that can
be read, each at its own place in the order of addresses. -/

namespace BlobDispatch

/-- The order of addresses: by the bytes of the container and then by those of the name. -/
def Blob.Before (a b : Blob) : Prop :=
  Text.bytes a.container < Text.bytes b.container ∨
    a.container = b.container ∧ Text.bytes a.name < Text.bytes b.name

namespace Store

/-- The blobs of a container in order, none if it does not exist. -/
def blobsIn (s : Store) (name : String) : List Blob :=
  match s.containers.get? name with
  | some container => container.blobs.values
  | none => []

/-- The blobs of all containers but the skipped ones. -/
def walk (s : Store) (skipped : List String) : List Blob :=
  (s.containerNames.filter fun name => !skipped.contains name).flatMap s.blobsIn

theorem blobsIn_of_get? {s : Store} {name : String} {container : Container}
    (found : s.containers.get? name = some container) :
    s.blobsIn name = container.blobs.values := by rw [blobsIn, found]

theorem blobsIn_of_missing {s : Store} {name : String}
    (missing : s.containers.get? name = none) : s.blobsIn name = [] := by rw [blobsIn, missing]

section WellFormed

variable {s : Store} {skipped : List String} {name : String} {blob : Blob}

theorem mem_blobsIn_iff (wellFormed : s.WellFormed) :
    blob ∈ s.blobsIn name ↔ blob.container = name ∧ s.get name blob.name = .ok blob := by
  rw [get_eq_ok_iff]
  cases found : s.containers.get? name with
  | none => simp [blobsIn, found]
  | some container =>
    rw [blobsIn_of_get? found, NameTable.mem_values_iff]
    constructor
    · intro stored
      obtain ⟨key, there⟩ := stored
      have placed := wellFormed name container found key blob there
      refine ⟨placed.container_eq, container, rfl, ?_⟩
      rw [placed.name_eq, there]
    · intro stored
      obtain ⟨_, _, again, there⟩ := stored
      cases again
      exact ⟨blob.name, there⟩

/-- A blob in the listing of a container is the one that is stored under its name there. -/
theorem get_of_mem_listing (wellFormed : s.WellFormed) {target : Listing.Target} {flat : Bool}
    {container : Container} (found : s.containers.get? target.container = some container)
    (listed : .blob blob ∈ Listing.listing target flat container.blobs.values) :
    s.get target.container blob.name = .ok blob := by
  cases Listing.mem_listing_iff.1 listed with
  | blob stored _ _ =>
    rw [← blobsIn_of_get? found] at stored
    exact ((mem_blobsIn_iff wellFormed).1 stored).2

theorem mem_walk_iff (wellFormed : s.WellFormed) :
    blob ∈ s.walk skipped ↔
      blob.container ∉ skipped ∧ s.get blob.container blob.name = .ok blob := by
  simp only [walk, List.mem_flatMap, List.mem_filter, mem_blobsIn_iff wellFormed,
    Bool.not_eq_true', List.contains_eq_mem, decide_eq_false_iff_not]
  constructor
  · intro met
    obtain ⟨name, ⟨_, kept⟩, rfl, stored⟩ := met
    exact ⟨kept, stored⟩
  · intro stored
    obtain ⟨kept, stored⟩ := stored
    obtain ⟨container, found, _⟩ := get_eq_ok_iff.1 stored
    exact ⟨blob.container, ⟨NameTable.mem_names_iff.2 ⟨container, found⟩, kept⟩, rfl, stored⟩

theorem walk_ascending (wellFormed : s.WellFormed) : (s.walk skipped).Pairwise Blob.Before := by
  rw [walk, List.pairwise_flatMap]
  constructor
  · intro name _
    cases found : s.containers.get? name with
    | none =>
      rw [blobsIn_of_missing found]
      exact .nil
    | some container =>
      have ascending := values_ascending (wellFormed name container found)
      rw [← blobsIn_of_get? found] at ascending
      refine ascending.imp_of_mem ?_
      intro a b first second below
      have inside := ((mem_blobsIn_iff wellFormed).1 first).1
      have beside := ((mem_blobsIn_iff wellFormed).1 second).1
      exact .inr ⟨inside.trans beside.symm, Text.bytes_lt_bytes_iff.2 below⟩
  · refine (s.containers.names_ascending.filter _).imp ?_
    intro name other below a first b second
    have inside := ((mem_blobsIn_iff wellFormed).1 first).1
    have beside := ((mem_blobsIn_iff wellFormed).1 second).1
    rw [← inside, ← beside] at below
    exact .inl (Text.bytes_lt_bytes_iff.2 below)

theorem walk_eq_filter (wellFormed : s.WellFormed) (skipped : List String) :
    s.walk skipped = (s.walk []).filter fun blob => !skipped.contains blob.container := by
  have part (name : String) : (s.blobsIn name).filter (fun blob =>
      !skipped.contains blob.container) =
        if skipped.contains name then [] else s.blobsIn name := by
    split
    · rename_i left
      apply List.filter_eq_nil_iff.2
      intro blob member
      rw [((mem_blobsIn_iff wellFormed).1 member).1]
      simpa using left
    · rename_i kept
      apply List.filter_eq_self.2
      intro blob member
      rw [((mem_blobsIn_iff wellFormed).1 member).1]
      simpa using kept
  simp only [walk, List.filter_flatMap, part]
  induction s.containerNames with
  | nil => rfl
  | cons name names ih =>
    by_cases left : name ∈ skipped
    · simpa [left] using ih
    · simpa [left] using ih

end WellFormed

end Store

end BlobDispatch
